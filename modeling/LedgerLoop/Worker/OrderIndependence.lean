import LedgerLoop.Worker.Invariant

/-!
# Order independence

When every transaction id of a tenant occurs at most once on each side and no sweep of a row begins
before its opposite row has committed, the active results a run ends with are a function of the rows
alone: `Expected` lists them, one for each viable pair and one for each remaining row.

The invariant compares every state with the rows `W` the run ends with. A result that is written, or a
decision that is waiting to be, is expected of `W`; the exception is a sweep that gave up on a row
because its partner was no longer pending, and then the row is taken and the write will be refused.
-/

set_option autoImplicit false

namespace LedgerLoop
open LedgerLoop.Library

/-- What a result says, without its id, times and texts. -/
structure Outcome where
  tenantId : ℕ
  gatewayTxnId : Option ℕ
  ledgerEntryId : Option ℕ
  status : ReconStatus
  matchLayer : MatchLayer
deriving DecidableEq, Repr

def ReconciliationResult.outcome (r : ReconciliationResult) : Outcome where
  tenantId := r.tenantId
  gatewayTxnId := r.gatewayTxnId
  ledgerEntryId := r.ledgerEntryId
  status := r.status
  matchLayer := r.matchLayer

/-- The raw row an outcome references on one side. -/
def Outcome.rawId (o : Outcome) : IngestSource → Option ℕ
  | .gateway => o.gatewayTxnId
  | .ledger => o.ledgerEntryId

@[simp] lemma ReconciliationResult.outcome_rawId (r : ReconciliationResult) (side : IngestSource) :
    r.outcome.rawId side = r.rawId side := by
  cases side <;> rfl

/-- The outcome a decision about a candidate would be written as. -/
def Decision.outcome (d : Decision) (candidate : TxnFacts) : Outcome where
  tenantId := candidate.tenantId
  gatewayTxnId := d.gatewayRowId
  ledgerEntryId := d.ledgerRowId
  status := d.status
  matchLayer := d.layer

@[simp] lemma Decision.outcome_rawId (d : Decision) (candidate : TxnFacts) (side : IngestSource) :
    (d.outcome candidate).rawId side = d.rowId side := by
  cases side <;> rfl

/-- The outcomes of the non-duplicate results. -/
def Store.outcomes (s : Store) : List Outcome :=
  (s.reconciliationResults.filter (·.active)).map (·.outcome)

/-- Some stored row has these facts. -/
def Store.HasRow (s : Store) (f : TxnFacts) : Prop :=
  ∃ row ∈ s.raw f.side, facts row f.side = f

/-- What a set of rows reconciles to: every viable pair with its verdict, every other row alone. -/
inductive Expected (config : MatchConfig) (W : TxnFacts → Prop) : Outcome → Prop where
  | pair {g l status layer} :
    W g → W l → g.side = .gateway →
    Core.classifyPair g l config = some (status, layer) →
    Expected config W ⟨g.tenantId, some g.rowId, some l.rowId, status, layer⟩
  | alone {f : TxnFacts} (waited : Timedelta) :
    W f →
    (∀ f', W f' → Core.classifyPair f f' config = none) →
    Expected config W ((Core.decideUnmatched f waited).outcome f)

/-- Rows are determined by their ids, and on each side by tenant and transaction id. -/
structure UniqueRows (W : TxnFacts → Prop) : Prop where
  byId : ∀ f f', W f → W f' → f.side = f'.side → f.rowId = f'.rowId → f = f'
  byTxn : ∀ f f', W f → W f' → f.side = f'.side → f.tenantId = f'.tenantId →
    f.txnId = f'.txnId → f = f'

section Expected
variable {config : MatchConfig} {W : TxnFacts → Prop} {f f' : TxnFacts} {o o' : Outcome}

/-- A pair is written the same way whichever of its rows is the candidate. -/
lemma pairDecision_outcome {g l : TxnFacts} {status layer} (gateway : g.side = .gateway)
    (agree : g.Agree l) :
    (Core.pairDecision g l status layer config).outcome g =
        ⟨g.tenantId, some g.rowId, some l.rowId, status, layer⟩ ∧
      (Core.pairDecision l g status layer config).outcome l =
        ⟨g.tenantId, some g.rowId, some l.rowId, status, layer⟩ := by
  have ledger : l.side = .ledger := by rw [agree.side, gateway]; rfl
  simp [Decision.outcome, Core.pairDecision, Core.gatewayAndLedger, gateway, ledger, agree.tenantId]

/-- The decision that pairs two rows is expected. -/
lemma Expected.of_viable {status layer} (own : W f) (opposite : W f')
    (viable : Core.classifyPair f f' config = some (status, layer)) :
    Expected config W ((Core.pairDecision f f' status layer config).outcome f) := by
  have agree := Core.classifyPair_agree viable
  cases h : f.side with
  | gateway =>
    rw [(pairDecision_outcome h agree).1]
    exact .pair own opposite h viable
  | ledger =>
    have viable' := Core.classifyPair_comm.trans viable
    have gateway : f'.side = .gateway := by rw [agree.side, h]; rfl
    rw [(pairDecision_outcome gateway (Core.classifyPair_agree viable')).2]
    exact .pair opposite own gateway viable'

/-- An expected outcome that references a row is its pair with another, or the row alone. -/
lemma Expected.of_ref {side : IngestSource} {id : ℕ} (ex : Expected config W o)
    (ref : o.rawId side = some id) :
    ∃ f, W f ∧ f.side = side ∧ f.rowId = id ∧
      ((∃ f' status layer, W f' ∧ Core.classifyPair f f' config = some (status, layer) ∧
          o = (Core.pairDecision f f' status layer config).outcome f) ∨
        ((∀ f', W f' → Core.classifyPair f f' config = none) ∧
          ∃ waited, o = (Core.decideUnmatched f waited).outcome f)) := by
  cases ex with
  | @pair g l status layer own opposite gateway viable =>
    have agree := Core.classifyPair_agree viable
    obtain ⟨fromG, fromL⟩ := @pairDecision_outcome config g l status layer gateway agree
    cases side with
    | gateway =>
      exact ⟨g, own, gateway, Option.some.inj ref,
        .inl ⟨l, status, layer, opposite, viable, fromG.symm⟩⟩
    | ledger =>
      refine ⟨l, opposite, by rw [agree.side, gateway]; rfl, Option.some.inj ref, .inl ?_⟩
      exact ⟨g, status, layer, own, Core.classifyPair_comm.trans viable, fromL.symm⟩
  | @alone f waited own single =>
    refine ⟨f, own, ?_, ?_, .inr ⟨single, waited, rfl⟩⟩ <;>
      cases side <;> cases h : f.side <;> simp_all [Decision.rowId, Core.decideUnmatched]

/-- Every expected outcome references a row. -/
lemma Expected.exists_row (ex : Expected config W o) :
    ∃ f, W f ∧ o.rawId f.side = some f.rowId := by
  cases ex with
  | @pair g l status layer own _ side _ => exact ⟨g, own, by rw [side]; rfl⟩
  | @alone f waited own _ =>
    refine ⟨f, own, ?_⟩
    cases h : f.side <;> simp [Decision.rowId, Core.decideUnmatched, h]

/-- With unique transaction ids, expected outcomes that share a row are equal. -/
lemma Expected.eq (unique : UniqueRows W) {side : IngestSource} {id : ℕ} (ex : Expected config W o)
    (ex' : Expected config W o') (ref : o.rawId side = some id) (ref' : o'.rawId side = some id) :
    o = o' := by
  obtain ⟨f, own, rfl, rfl, shape⟩ := ex.of_ref ref
  obtain ⟨f₂, own₂, side₂, rowId₂, shape'⟩ := ex'.of_ref ref'
  obtain rfl := unique.byId f₂ f own₂ own side₂ rowId₂
  rcases shape with ⟨p, status, layer, opposite, viable, rfl⟩ | ⟨single, waited, rfl⟩ <;>
    rcases shape' with ⟨p', status', layer', opposite', viable', rfl⟩ | ⟨single', waited', rfl⟩
  · -- the partner has the row's tenant and transaction id
    have agree := Core.classifyPair_agree viable
    have agree' := Core.classifyPair_agree viable'
    obtain rfl := unique.byTxn p p' opposite opposite' (agree.side.trans agree'.side.symm)
      (agree.tenantId.symm.trans agree'.tenantId) (agree.txnId.symm.trans agree'.txnId)
    obtain ⟨rfl, rfl⟩ := Prod.mk.inj (Option.some.inj (viable.symm.trans viable'))
    rfl
  · simp [single' p opposite] at viable
  · simp [single p' opposite'] at viable'
  · rfl

end Expected

namespace System
open Persist

/-- A run over rows with unique transaction ids in which sweeps wait for the opposite row, no account
    is deleted, and no row is left pending. -/
structure Schedule (config : MatchConfig) (tr : List (Sys × Event)) (u : Sys) : Prop where
  run : Run (Step config) Sys.initial tr u
  kept : ∀ p ∈ tr, ∀ accountId, p.2 ≠ .deleteAccount accountId
  unique : ∀ side, ∀ a ∈ u.store.raw side, ∀ b ∈ u.store.raw side,
    a.tenantId = b.tenantId → a.txnId = b.txnId → a = b
  patient : ∀ p ∈ tr, ∀ w candidate rest, p.2 = .beginRow w →
    p.1.workers w = .sweeping (candidate :: rest) → ∀ row ∈ u.store.raw candidate.side.other,
      row.tenantId = candidate.tenantId → row.txnId = candidate.txnId →
        p.1.store.hasRaw candidate.side.other row.id = true
  settled : ∀ side, ∀ row ∈ u.store.raw side, row.pending = false

/-- The opposite row of a candidate, if `W` has one, is stored. -/
def OppositeStored (W : TxnFacts → Prop) (s : Sys) (candidate : TxnFacts) : Prop :=
  ∀ f, W f → f.side = candidate.side.other → f.tenantId = candidate.tenantId →
    f.txnId = candidate.txnId → s.store.HasRow f

/-- What a worker holds, relative to the rows the run ends with. -/
def Activity.Towards (config : MatchConfig) (W : TxnFacts → Prop) (s : Sys) : Activity → Prop
  | .idle | .returned .. => True
  | .reading (.message ..) candidate => W candidate
  | .reading (.sweep rest) candidate =>
    W candidate ∧ OppositeStored W s candidate ∧ ∀ f ∈ rest, W f
  | .writing job candidate decision _ =>
    (decision.status ≠ .duplicate →
      Expected config W (decision.outcome candidate) ∨ s.Taken candidate.side candidate.rowId) ∧
    match job with
    | .message .. => True
    | .sweep rest => ∀ f ∈ rest, W f
  | .sweeping batch => ∀ f ∈ batch, W f

/-- The invariant relative to the rows the run ends with. -/
structure Towards (config : MatchConfig) (W : TxnFacts → Prop) (s : Sys) : Prop where
  results : ∀ r ∈ s.store.reconciliationResults, r.active = true → Expected config W r.outcome
  workers : ∀ w, (s.workers w).Towards config W s

section Steps
variable {config : MatchConfig} {s u : Sys} {e : Event} {W : TxnFacts → Prop}

/-- Without deletions rows stay, with their facts. -/
lemma Step.keeps (st : Step config s e u) (kept : ∀ accountId, e ≠ .deleteAccount accountId)
    {f : TxnFacts} (has : s.store.HasRow f) : u.store.HasRow f := by
  obtain ⟨row, mem, same⟩ := has
  cases st with
  | openAccount =>
    refine ⟨row, ?_, same⟩
    cases h : f.side <;> rw [h] at mem <;> exact mem
  | ingest fresh ok =>
    obtain ⟨row', mem', erased⟩ := (Ingest.run_effect ok).back mem
    refine ⟨row', mem', same ▸ ?_⟩
    exact RawRow.of_eraseCount (fun r => facts r f.side) (fun _ => rfl) erased
  | load | find | ack | scan | beginRow | abandon => exact ⟨row, mem, same⟩
  | apply writing fresh ok =>
    obtain ⟨r, _, ⟨_, rfl⟩ | ⟨_, _, rfl⟩⟩ := persist_ok ok
    · exact ⟨row, mem, same⟩
    · obtain ⟨row', mem', eq⟩ := Consistent.back_settle mem
      exact ⟨row', mem', by rw [eq]; exact same⟩
  | deleteAccount => exact absurd rfl (kept _)
  | closeException ok =>
    simp only [Queries.closeException] at ok
    split_ifs at ok
    obtain ⟨rfl, _⟩ := Prod.mk.inj (Except.ok.inj ok)
    refine ⟨row, ?_, same⟩
    cases h : f.side <;> rw [h] at mem <;> exact mem

/-- What a worker holds stays right as rows accumulate. -/
lemma Activity.Towards.mono {a : Activity} (ext : s.Extends u)
    (keeps : ∀ f, s.store.HasRow f → u.store.HasRow f) (sound : a.Sound config s.Knows)
    (h : a.Towards config W s) : a.Towards config W u := by
  match a with
  | .idle | .returned .. => trivial
  | .reading (.message ..) _ => exact h
  | .reading (.sweep _) _ =>
    obtain ⟨own, stored, rest⟩ := h
    exact ⟨own, fun f mem side tenant txn => keeps f (stored f mem side tenant txn), rest⟩
  | .writing _ candidate _ _ =>
    refine ⟨fun active => ?_, h.2⟩
    exact (h.1 active).imp_right (Sys.Taken.mono ext sound.1.1)
  | .sweeping _ => exact h

/-- A sweep that finds no viable counterparty gives its row up rightly, or the row is taken. -/
lemma Towards.unmatched (windows : config.exactWindow ≤ config.driftWindow) (unique : UniqueRows W)
    (inv : s.Inv config) (h : Towards config W s) {candidate : TxnFacts}
    {counterparties : List TxnFacts} (own : W candidate) (stored : OppositeStored W s candidate)
    (query : findCounterparties s.store candidate config = .ok counterparties)
    (deferred : ∀ f ∈ counterparties, Core.classifyPair candidate f config = none)
    (waited : Timedelta) :
    Expected config W ((Core.decideUnmatched candidate waited).outcome candidate) ∨
      s.Taken candidate.side candidate.rowId := by
  by_cases single : ∀ f', W f' → Core.classifyPair candidate f' config = none
  · exact .inl (.alone waited own single)
  push Not at single
  obtain ⟨f', opposite, viable⟩ := single
  obtain ⟨⟨status, layer⟩, viable⟩ := Option.ne_none_iff_exists'.1 viable
  have agree := Core.classifyPair_agree viable
  -- the partner is stored, and as the query did not return it, some result holds it
  obtain ⟨row, mem, same⟩ := stored f' opposite agree.side agree.tenantId.symm agree.txnId.symm
  rw [agree.side] at mem same
  have decided : row.pending = false := by
    by_contra pending
    rw [← same] at viable
    have listed := viable_mem_findCounterparties windows query mem (by simpa using pending) viable
    simp [deferred _ listed] at viable
  obtain ⟨r, memR, active, ref⟩ := (inv.consistent.marked _ row mem).1 decided
  -- that result is the pair's
  obtain ⟨own_ref, opposite_ref⟩ := @Core.pairDecision_rowId candidate config f' status layer
  have rowId : row.id = f'.rowId := congrArg TxnFacts.rowId same
  have eq := (h.results r memR active).eq unique (.of_viable own opposite viable)
    (r.outcome_rawId _ ▸ rowId ▸ ref) ((Decision.outcome_rawId ..).trans opposite_ref)
  refine .inr (inv.taken memR active ?_)
  rw [← r.outcome_rawId, eq, Decision.outcome_rawId, own_ref]

/-- What a worker holds after `load_facts`. -/
lemma towards_afterLoad (rows : ∀ f, s.store.HasRow f → W f) {message : IngestMessage} {messageId} :
    (afterLoad message messageId
      (loadFacts s.store message.source message.rowId)).Towards config W s := by
  cases eq : loadFacts s.store message.source message.rowId with
  | none => trivial
  | some candidate =>
    obtain ⟨row, mem, _, rfl⟩ := loadFacts_eq_some eq
    simp only [afterLoad]
    split_ifs
    · exact ⟨fun active => absurd rfl active, trivial⟩
    · exact rows _ ⟨row, mem, rfl⟩

/-- What a worker holds after its counterparty query. -/
lemma Towards.afterFind (windows : config.exactWindow ≤ config.driftWindow) (unique : UniqueRows W)
    (inv : s.Inv config) (rows : ∀ f, s.store.HasRow f → W f) (h : Towards config W s)
    {job candidate found counterparties now}
    (reading : (Activity.reading job candidate).Towards config W s)
    (query : findCounterparties s.store candidate config = .ok found)
    (order : counterparties.Perm found) :
    (afterFind job candidate counterparties config now).Towards config W s := by
  have paired {d : Decision} (own : W candidate)
      (eq : Core.decide candidate counterparties config = some d) :
      Expected config W (d.outcome candidate) := by
    obtain ⟨best, mem, status, layer, viable, rfl, _⟩ := Core.decide_spec eq
    obtain ⟨row, memRow, _, _, _, _, rfl⟩ := (mem_findCounterparties query).1 (order.subset mem)
    exact .of_viable own (rows _ ⟨row, memRow, rfl⟩) viable
  match job with
  | .message .. =>
    simp only [System.afterFind]
    split
    · trivial
    · exact ⟨fun _ => .inl (paired reading ‹_›), trivial⟩
  | .sweep _ =>
    obtain ⟨own, stored, rest⟩ := reading
    refine ⟨fun _ => ?_, rest⟩
    simp only [Sweeper.decideRow]
    split
    · exact .inl (paired own ‹_›)
    · rename_i deferred
      have none_viable := Core.decide_eq_none.1 deferred
      exact h.unmatched windows unique inv own stored query
        (fun f mem => none_viable f (order.symm.subset mem)) _

/-- A decision that is written is expected. -/
lemma Towards.persist (inv : s.Inv config) {candidate decision sides messageId now draws store res}
    (h : Towards config W s) (kn : s.Knows candidate) (dec : Decided config s.Knows candidate decision)
    (expected : decision.status ≠ .duplicate →
      Expected config W (decision.outcome candidate) ∨ s.Taken candidate.side candidate.rowId)
    (ok : MatcherWorker.persist s.store candidate decision sides messageId now draws =
      .ok (store, res)) :
    ∀ r ∈ store.reconciliationResults, r.active = true → Expected config W r.outcome := by
  obtain ⟨r, eq, ⟨_, rfl⟩ | ⟨free, exist, rfl⟩⟩ := persist_ok ok
  · exact h.results
  intro r' mem active
  rw [settle_results] at mem
  rcases List.mem_append.1 mem with old | new
  · exact h.results r' old active
  obtain rfl := List.mem_singleton.1 new
  have notDuplicate : decision.status ≠ .duplicate := by
    subst eq
    simpa [ReconciliationResult.active, resultRow] using active
  rcases expected notDuplicate with ex | taken
  · subst eq
    exact ex
  · -- a result that takes the candidate would have refused this one
    have ref : r'.rawId candidate.side = some candidate.rowId := by
      rw [← dec.own, eq]
      cases candidate.side <;> rfl
    obtain ⟨row, memRow, idEq⟩ := exist _ _ ref
    have tenant : row.tenantId = r'.tenantId := by
      rw [eq]
      exact congrArg TxnFacts.tenantId (kn.2 row memRow idEq)
    have pending := inv.consistent.pending_of_free free active memRow (idEq ▸ ref) tenant
    simp [taken row memRow idEq] at pending

/-- Every step of a schedule keeps the invariant. -/
lemma Towards.step (windows : config.exactWindow ≤ config.driftWindow) (unique : UniqueRows W)
    (inv : s.Inv config) (rows : ∀ f, u.store.HasRow f → W f)
    (kept : ∀ accountId, e ≠ .deleteAccount accountId)
    (patient : ∀ w candidate rest, e = .beginRow w → s.workers w = .sweeping (candidate :: rest) →
      W candidate → OppositeStored W s candidate)
    (h : Towards config W s) (st : Step config s e u) : Towards config W u := by
  have keeps : ∀ f, s.store.HasRow f → u.store.HasRow f := fun f => st.keeps kept
  have rows' : ∀ f, s.store.HasRow f → W f := fun f has => rows f (keeps f has)
  have ext := st.extends
  have mono : ∀ w, (s.workers w).Towards config W u := fun w =>
    (h.workers w).mono ext keeps (inv.workers w)
  have update {w : ℕ} {a : Activity} (ha : a.Towards config W u) :
      ∀ w', (Function.update s.workers w a w').Towards config W u := by
    intro w'
    by_cases eq : w' = w
    · subst eq
      simpa using ha
    · simpa [Function.update_of_ne eq] using mono w'
  cases st with
  | openAccount => exact ⟨h.results, mono⟩
  | ingest fresh ok => exact ⟨(Ingest.run_effect ok).results ▸ h.results, mono⟩
  | load => exact ⟨h.results, update (towards_afterLoad rows')⟩
  | find reading query order =>
    rename_i w _ _ _ _ _
    have held := h.workers w
    rw [reading] at held
    exact ⟨h.results, update (h.afterFind windows unique inv rows' held query order)⟩
  | apply writing fresh ok =>
    rename_i w job candidate decision _ _ _ _ _
    have held := h.workers w
    have sound := inv.workers w
    rw [writing] at held sound
    refine ⟨h.persist inv sound.1 sound.2.1 held.1 ok, update ?_⟩
    match job, held with
    | .message .., _ => trivial
    | .sweep _, ⟨_, rest⟩ => exact rest
  | ack | abandon => exact ⟨h.results, update trivial⟩
  | scan idle stale =>
    refine ⟨h.results, update fun f mem => ?_⟩
    obtain ⟨row, memRow, _, same⟩ := stale f mem
    exact rows' f ⟨row, memRow, same⟩
  | beginRow sweeping =>
    rename_i w candidate rest
    have held := h.workers w
    rw [sweeping] at held
    have own := held candidate List.mem_cons_self
    exact ⟨h.results, update ⟨own, patient w candidate rest rfl sweeping own,
      fun f mem => held f (List.mem_cons_of_mem _ mem)⟩⟩
  | deleteAccount => exact absurd rfl (kept _)
  | closeException ok =>
    simp only [Queries.closeException] at ok
    split_ifs at ok
    obtain ⟨rfl, _⟩ := Prod.mk.inj (Except.ok.inj ok)
    exact ⟨h.results, mono⟩

end Steps

section Schedules
variable {config : MatchConfig} {tr tr' : List (Sys × Event)} {u u' : Sys}

/-- The rows a schedule ends with are determined by their ids and by their transaction ids. -/
lemma Schedule.uniqueRows (a : Schedule config tr u) : UniqueRows u.store.HasRow where
  byId := by
    rintro f f' ⟨row, mem, same⟩ ⟨row', mem', same'⟩ side rowId
    rw [← same, ← same'] at rowId
    rw [side] at mem same
    obtain rfl := eq_of_key ((Sys.Inv.reached a.run).consistent.rawIds _) mem mem' rowId
    exact same.symm.trans same'
  byTxn := by
    rintro f f' ⟨row, mem, same⟩ ⟨row', mem', same'⟩ side tenant txn
    rw [← same, ← same'] at tenant txn
    rw [side] at mem same
    obtain rfl := a.unique _ row mem row' mem' tenant txn
    exact same.symm.trans same'

/-- Every state a schedule passes through has rows it ends with only. -/
lemma Schedule.rows (a : Schedule config tr u) :
    ∀ p ∈ tr, ∀ f, p.1.store.HasRow f → u.store.HasRow f := by
  have run := a.run.restrict (P := fun _ e => ∀ accountId, e ≠ .deleteAccount accountId) a.kept
  exact run.grows_from (R := fun s t => ∀ f, s.store.HasRow f → t.store.HasRow f)
    (fun _ _ => id) (fun st tu f has => tu f (st f has)) (fun st f => st.1.keeps st.2)

/-- When the transaction of a sweep begins, the opposite row is stored. -/
lemma Schedule.oppositeStored (a : Schedule config tr u) {p w candidate rest} (mem : p ∈ tr)
    (begin_ : p.2 = .beginRow w) (sweeping : p.1.workers w = .sweeping (candidate :: rest)) :
    OppositeStored u.store.HasRow p.1 candidate := by
  intro f has side tenant txn
  obtain ⟨row, memRow, same⟩ := has
  rw [← same] at tenant txn
  rw [side] at memRow same
  obtain ⟨row₀, mem₀, idEq⟩ := Store.hasRaw_iff.1
    (a.patient p mem w candidate rest begin_ sweeping row memRow tenant txn)
  have stored : p.1.store.HasRow (facts row₀ candidate.side.other) := ⟨row₀, mem₀, rfl⟩
  have eq := a.uniqueRows.byId _ f (a.rows p mem _ stored) ⟨row, side ▸ memRow, side ▸ same⟩
    side.symm (idEq.trans (congrArg TxnFacts.rowId same))
  rwa [eq] at stored

/-- Whatever a schedule has written is expected of the rows it ends with. -/
lemma Schedule.towards (windows : config.exactWindow ≤ config.driftWindow)
    (a : Schedule config tr u) : Towards config u.store.HasRow u := by
  have both : u.Inv config ∧ Towards config u.store.HasRow u := by
    refine a.run.invariant_within (I := fun s => s.Inv config ∧ Towards config u.store.HasRow s)
      (P := fun s e => (∀ accountId, e ≠ .deleteAccount accountId) ∧
        ∀ w candidate rest, e = .beginRow w → s.workers w = .sweeping (candidate :: rest) →
          OppositeStored u.store.HasRow s candidate)
      (Q := fun s => ∀ f, s.store.HasRow f → u.store.HasRow f)
      ⟨.initial config, ⟨by rintro r ⟨⟩, fun _ => trivial⟩⟩ ?_ a.rows (fun _ => id) ?_
    · exact fun p mem => ⟨a.kept p mem, fun w candidate rest => a.oppositeStored mem⟩
    · rintro s e t ⟨inv, h⟩ ⟨kept, patient⟩ _ rows st
      exact ⟨st.inv inv, h.step windows a.uniqueRows inv rows kept
        (fun w candidate rest eq sweeping _ => patient w candidate rest eq sweeping) st⟩
  exact both.2

/-- The outcomes of a schedule are what its rows reconcile to. -/
lemma Schedule.mem_outcomes (windows : config.exactWindow ≤ config.driftWindow)
    (a : Schedule config tr u) {o : Outcome} :
    o ∈ u.store.outcomes ↔ Expected config u.store.HasRow o := by
  have towards := a.towards windows
  have consistent := (Sys.Inv.reached a.run).consistent
  simp only [Store.outcomes, List.mem_map, List.mem_filter]
  constructor
  · rintro ⟨r, ⟨mem, active⟩, rfl⟩
    exact towards.results r mem active
  · intro ex
    -- some row of it is decided, by a result that can only be this one
    obtain ⟨f, ⟨row, mem, same⟩, ref⟩ := ex.exists_row
    obtain ⟨r, memR, active, refR⟩ :=
      (consistent.marked _ row mem).1 (a.settled _ row mem)
    have rowId : row.id = f.rowId := congrArg TxnFacts.rowId same
    refine ⟨r, ⟨memR, active⟩, (towards.results r memR active).eq a.uniqueRows ex ?_ ref⟩
    rw [ReconciliationResult.outcome_rawId, refR, rowId]

/-- No outcome is written twice. -/
lemma Schedule.outcomes_nodup (windows : config.exactWindow ≤ config.driftWindow)
    (a : Schedule config tr u) : u.store.outcomes.Nodup := by
  have towards := a.towards windows
  have consistent := (Sys.Inv.reached a.run).consistent
  refine (consistent.resultIds.of_map.filter _).map_on fun r mem r' mem' eq => ?_
  obtain ⟨mem, active⟩ := List.mem_filter.1 mem
  obtain ⟨mem', active'⟩ := List.mem_filter.1 mem'
  obtain ⟨f, _, ref⟩ := (towards.results r mem active).exists_row
  have ref' := ref
  rw [eq, ReconciliationResult.outcome_rawId] at ref'
  rw [ReconciliationResult.outcome_rawId] at ref
  exact consistent.unique true f.side r mem r' mem' active active' _ ref ref'

/-- Schedules that end with the same rows end with the same non-duplicate results: one for each
    viable pair, with its verdict, and one for each row without a viable partner. -/
theorem order_independence (windows : config.exactWindow ≤ config.driftWindow)
    (a : Schedule config tr u) (b : Schedule config tr' u')
    (same : ∀ f, u.store.HasRow f ↔ u'.store.HasRow f) :
    u.store.outcomes.Perm u'.store.outcomes ∧ u.store.outcomes.Nodup ∧
      ∀ o, o ∈ u.store.outcomes ↔ Expected config u.store.HasRow o := by
  have rows : u.store.HasRow = u'.store.HasRow := funext fun f => propext (same f)
  refine ⟨?_, a.outcomes_nodup windows, fun o => a.mem_outcomes windows⟩
  refine (List.perm_ext_iff_of_nodup (a.outcomes_nodup windows) (b.outcomes_nodup windows)).2 ?_
  intro o
  rw [a.mem_outcomes windows, b.mem_outcomes windows, rows]

end Schedules

/-! The pair of the earlier sample, once matched by the gateway's message, once with the ledger row in
first and the pair made by a sweep of it. -/

section
variable {config : MatchConfig} {tr : List (Sys × Event)} {u : Sys}

/-- A computable check of one event of a schedule that ends in `u`. -/
def scheduled (u s : Sys) : Event → Bool
  | .deleteAccount _ => false
  | .beginRow w =>
    match s.workers w with
    | .sweeping (candidate :: _) =>
      (u.store.raw candidate.side.other).all fun row =>
        !(row.tenantId == candidate.tenantId && row.txnId == candidate.txnId) ||
          s.store.hasRaw candidate.side.other row.id
    | _ => true
  | _ => true

/-- A computable check that a table of a schedule is settled and has unique transaction ids. -/
def settledTable (rows : List RawRow) : Bool :=
  rows.all fun a => !a.pending &&
    rows.all fun b => !(a.tenantId == b.tenantId && a.txnId == b.txnId) || decide (a = b)

lemma Schedule.of_checks (run : Run (Step config) Sys.initial tr u)
    (events : (tr.all fun p => scheduled u p.1 p.2) = true)
    (tables : ([IngestSource.gateway, .ledger].all fun side =>
      settledTable (u.store.raw side)) = true) : Schedule config tr u := by
  have event := List.all_eq_true.1 events
  have table : ∀ side, settledTable (u.store.raw side) = true := fun side =>
    List.all_eq_true.1 tables side (by cases side <;> simp)
  simp only [settledTable, List.all_eq_true, Bool.and_eq_true, Bool.or_eq_true,
    Bool.not_eq_eq_eq_not, Bool.not_true, Bool.and_eq_false_iff, beq_eq_false_iff_ne,
    decide_eq_true_eq] at table
  refine ⟨run, ?_, ?_, ?_, fun side row mem => (table side row mem).1⟩
  · rintro p mem accountId eq
    have := event p mem
    simp [scheduled, eq] at this
  · rintro side a memA b memB tenant txn
    rcases (table side a memA).2 b memB with (ne | ne) | eq
    · exact absurd tenant ne
    · exact absurd txn ne
    · exact eq
  · rintro p mem w candidate rest begin_ sweeping row memRow tenant txn
    have := event p mem
    simp only [scheduled, begin_, sweeping, List.all_eq_true] at this
    simpa [tenant, txn] using this row memRow

end

namespace Sample

def sweptEvents : List Event :=
  [.openAccount Ingest.Sample.account,
    .ingest (.ledger 1 [Ingest.Sample.entry]) Ingest.Sample.draws,
    .load 0 (messageOf .ledger (ledgerRow 0 Ingest.Sample.entry)) none,
    .find 0 [] (.newYear 5), .ack 0,
    .scan 1 [facts (ledgerRow 0 Ingest.Sample.entry) .ledger],
    .ingest (.gateway 1 Ingest.Sample.payload "key-1" "null") Ingest.Sample.draws,
    .beginRow 1,
    .find 1 [facts (gatewayRow 0 "key-1") .gateway] (.newYear 5),
    .apply 1 (.newYear 5) (drawsAt 1)]

end Sample

theorem order_independence_sample :
    ∃ tr u tr' u', replay (step .shipped) Sys.initial Sample.events = some (tr, u) ∧
      replay (step .shipped) Sys.initial Sample.sweptEvents = some (tr', u') ∧
      u.store.outcomes = [⟨1, some 1, some 1, .matched, .exact⟩] ∧
      u.store.outcomes.Perm u'.store.outcomes := by
  let tables (u : Sys) := (u.store.gatewayTransactions, u.store.ledgerEntries)
  let checks (p : List (Sys × Event) × Sys) : Bool :=
    (p.1.all fun q => scheduled p.2 q.1 q.2) &&
      [IngestSource.gateway, .ledger].all fun side => settledTable (p.2.store.raw side)
  have runs : (replay (step .shipped) Sys.initial Sample.events).bind (fun p =>
      (replay (step .shipped) Sys.initial Sample.sweptEvents).map fun p' =>
        checks p && checks p' && decide (tables p.2 = tables p'.2) &&
          decide (p.2.store.outcomes = [⟨1, some 1, some 1, .matched, .exact⟩])) = some true := by
    decide +kernel
  obtain ⟨⟨tr, u⟩, eq, runs⟩ := Option.bind_eq_some_iff.1 runs
  obtain ⟨⟨tr', u'⟩, eq', both⟩ := Option.map_eq_some_iff.1 runs
  simp only [checks, Bool.and_eq_true, decide_eq_true_eq] at both
  obtain ⟨⟨⟨a, b⟩, same⟩, outcomes⟩ := both
  obtain ⟨gateway, ledger⟩ := Prod.mk.inj same
  have rows : u.store.raw = u'.store.raw := by
    funext side
    cases side
    · exact gateway
    · exact ledger
  refine ⟨tr, u, tr', u', eq, eq', outcomes, (order_independence (by decide)
    (.of_checks (.of_replay step_iff.1 eq) a.1 a.2) (.of_checks (.of_replay step_iff.1 eq') b.1 b.2)
    fun f => ?_).1⟩
  simp only [Store.HasRow, rows]

end System
end LedgerLoop
