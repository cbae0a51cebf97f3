import LedgerLoop.Worker.Contents

/-!
# Verdicts can be checked again

What the read path shows of a result is evidence for it: the rows behind an item were stored before the verdict
and keep what they say, so whoever reads the item can apply the layer rules to the fields it shows and comes to
the verdict it shows (`recheck`). `Justified` is the invariant behind it, which every step keeps: each result is
what the engine decides of the rows it references.
-/

set_option autoImplicit false

namespace LedgerLoop
open Library

namespace System
open Persist

/-- A result is what the engine decides of the rows it references. -/
inductive Justified (config : MatchConfig) (s : Store) (r : ReconciliationResult) : Prop where
  | pair {g l : RawRow} :
    g ∈ s.raw .gateway →
    l ∈ s.raw .ledger →
    r.gatewayTxnId = some g.id →
    r.ledgerEntryId = some l.id →
    g.tenantId = r.tenantId →
    l.tenantId = r.tenantId →
    classifyContent g.content l.content config = some (r.status, r.matchLayer) →
    r.notes = Core.pairNotes (g.content.facts .gateway) (l.content.facts .ledger) r.matchLayer config →
    Justified config s r
  | single {side : IngestSource} {row : RawRow} :
    row ∈ s.raw side →
    r.rawId side = some row.id →
    r.rawId side.other = none →
    row.tenantId = r.tenantId →
    (r.status, r.matchLayer) ∈ [(unmatchedStatus side, .unmatchedSweep), (.duplicate, .duplicate)] →
    Justified config s r

section Steps
variable {config : MatchConfig} {s u : Sys} {store : Store} {e : Event} {r : ReconciliationResult}
  {candidate f : TxnFacts} {d : Decision}

/-- Rows with the facts of others say the same. -/
lemma content_of_facts {side : IngestSource} {row row' : RawRow} (same : facts row side = facts row' side) :
    row.id = row'.id ∧ row.tenantId = row'.tenantId ∧ row.content = row'.content :=
  ⟨congrArg TxnFacts.rowId same, congrArg TxnFacts.tenantId same, congrArg TxnFacts.content same⟩

/-- A result stays justified while its tenant's rows keep their facts. -/
lemma Justified.mono {s s' : Store} (justified : Justified config s r)
    (back : ∀ side, ∀ row ∈ s.raw side, row.tenantId = r.tenantId → ∃ row' ∈ s'.raw side,
      facts row' side = facts row side) : Justified config s' r := by
  cases justified with
  | pair memG memL refG refL tenantG tenantL verdict notes =>
    obtain ⟨g', memG', same⟩ := back .gateway _ memG tenantG
    obtain ⟨idG, ownerG, contentG⟩ := content_of_facts same
    obtain ⟨l', memL', same⟩ := back .ledger _ memL tenantL
    obtain ⟨idL, ownerL, contentL⟩ := content_of_facts same
    refine .pair memG' memL' ?_ ?_ (ownerG.trans tenantG) (ownerL.trans tenantL) ?_ ?_
    · rw [refG, idG]
    · rw [refL, idL]
    · rw [contentG, contentL, verdict]
    · rw [contentG, contentL, notes]
  | @single side row mem ref other tenant kind =>
    obtain ⟨row', mem', same⟩ := back side row mem tenant
    obtain ⟨id, owner, _⟩ := content_of_facts same
    exact .single mem' (by rw [ref, id]) other (owner.trans tenant) kind

/-- The row of known facts that a result references. -/
lemma exists_known (kn : s.Knows f) (exist : ∀ side id, r.rawId side = some id → ∃ row ∈ s.store.raw side, row.id = id)
    (ref : r.rawId f.side = some f.rowId) : ∃ row ∈ s.store.raw f.side, facts row f.side = f := by
  obtain ⟨row, mem, id⟩ := exist _ _ ref
  exact ⟨row, mem, kn.2 row mem id⟩

/-- A decision the program takes justifies its result. -/
lemma Decided.justified (dec : Decided config s.Knows candidate d) (kn : s.Knows candidate)
    (tenant : r.tenantId = candidate.tenantId) (status : r.status = d.status) (layer : r.matchLayer = d.layer)
    (notes : r.notes = d.notes) (rawId : ∀ side, r.rawId side = d.rowId side)
    (exist : ∀ side id, r.rawId side = some id → ∃ row ∈ s.store.raw side, row.id = id) :
    Justified config s.store r := by
  have own := (rawId candidate.side).trans dec.own
  obtain ⟨row, mem, same⟩ := exists_known kn exist own
  have owner : row.tenantId = r.tenantId := (congrArg TxnFacts.tenantId same).trans tenant.symm
  have id : row.id = candidate.rowId := congrArg TxnFacts.rowId same
  cases dec with
  | duplicate n =>
    refine .single mem (id ▸ own) ?_ owner ?_
    · rw [rawId]
      cases side : candidate.side <;> simp [Core.decideDuplicate, Decision.rowId, IngestSource.other, side]
    · rw [status, layer]
      exact List.mem_cons_of_mem _ List.mem_cons_self
  | unmatched waited =>
    refine .single mem (id ▸ own) ?_ owner ?_
    · rw [rawId]
      cases side : candidate.side <;> simp [Core.decideUnmatched, Decision.rowId, IngestSource.other, side]
    · rw [status, layer]
      exact List.mem_cons_self
  | @pair partner status' layer' known verdict =>
    have agree := Core.classifyPair_agree verdict
    have opposite : r.rawId partner.side = some partner.rowId := by
      rw [agree.side, rawId]
      exact (@Core.pairDecision_rowId candidate config partner status' layer').2
    obtain ⟨row', mem', same'⟩ := exists_known known exist opposite
    have owner' : row'.tenantId = r.tenantId :=
      (congrArg TxnFacts.tenantId same').trans (agree.tenantId.symm.trans tenant.symm)
    have id' : row'.id = partner.rowId := congrArg TxnFacts.rowId same'
    rw [← id] at own
    rw [← id'] at opposite
    have note : r.notes = Core.pairNotes candidate partner layer' config := notes
    have comm := @pairNotes_comm config candidate partner layer' agree.side
    cases side : candidate.side with
    | gateway =>
      have side' : partner.side = .ledger := by rw [agree.side, side]; rfl
      rw [side] at mem same own
      rw [side'] at mem' same' opposite
      refine .pair mem mem' own opposite owner owner' ?_ ?_
      · rw [← classifyPair_content (owner.trans owner'.symm), same, same', verdict, status, layer]
        rfl
      · rw [← pairNotes_content, same, same', note, layer]
        rfl
    | ledger =>
      have side' : partner.side = .gateway := by rw [agree.side, side]; rfl
      rw [side] at mem same own
      rw [side'] at mem' same' opposite
      refine .pair mem' mem opposite own owner' owner ?_ ?_
      · rw [← classifyPair_content (owner'.trans owner.symm), same, same', Core.classifyPair_comm, verdict, status,
          layer]
        rfl
      · rw [← pairNotes_content, same, same', note, layer, comm]
        rfl

/-- A step that keeps the results and what their rows say. -/
lemma justified_of_same (justified : ∀ r ∈ s.store.reconciliationResults, Justified config s.store r)
    (results : u.store.reconciliationResults = s.store.reconciliationResults)
    (raw : ∀ side, u.store.raw side = s.store.raw side) :
    ∀ r ∈ u.store.reconciliationResults, Justified config u.store r := by
  intro r mem
  rw [results] at mem
  exact (justified r mem).mono fun side row memRow _ => ⟨row, raw side ▸ memRow, rfl⟩

/-- Every step keeps every result justified. -/
lemma Step.justified (inv : s.Inv config) (justified : ∀ r ∈ s.store.reconciliationResults, Justified config s.store r)
    (st : Step config s e u) : ∀ r ∈ u.store.reconciliationResults, Justified config u.store r := by
  cases st with
  | openAccount => exact justified_of_same justified rfl fun side => by cases side <;> rfl
  | load | find | ack | scan | beginRow | abandon => exact justified
  | @ingest call draws store outcomes fresh ok =>
    have eff := Ingest.run_effect ok
    intro r mem
    have mem' : r ∈ s.store.reconciliationResults := eff.results ▸ mem
    apply (justified r mem').mono
    intro side row memRow _
    obtain ⟨row', memRow', erased⟩ := eff.back memRow
    exact ⟨row', memRow', RawRow.of_eraseCount (fun r => facts r side) (fun _ => rfl) erased⟩
  | @apply w job candidate decision sides now draws store res writing fresh ok =>
    have sound := inv.workers w
    rw [writing] at sound
    obtain ⟨kn, dec, _⟩ := sound
    obtain ⟨r, eq, ⟨_, rfl⟩ | ⟨_, exist, rfl⟩⟩ := persist_ok ok
    · exact justified
    · intro r' mem
      have mem' : r' ∈ s.store.reconciliationResults ++ [r] := by
        rw [← settle_results s.store decision r draws]
        exact mem
      have before : Justified config s.store r' := by
        rcases List.mem_append.1 mem' with old | new
        · exact justified r' old
        · rw [List.mem_singleton.1 new]
          subst eq
          exact dec.justified kn rfl rfl rfl rfl (fun side => by cases side <;> rfl) exist
      apply before.mono
      intro side row memRow _
      obtain ⟨row', memRow', same⟩ := Consistent.back_settle memRow
      exact ⟨row', memRow', by rw [same]; rfl⟩
  | @deleteAccount accountId =>
    intro r mem
    obtain ⟨mem', other⟩ := mem_deleteWhere.1 mem
    apply (justified r mem').mono
    intro side row memRow tenant
    refine ⟨row, ?_, rfl⟩
    show row ∈ (Sweeper.deleteAccount s.store accountId).raw side
    rw [Sweeper.raw_deleteAccount]
    exact mem_deleteWhere.2 ⟨memRow, by rw [tenant]; exact other⟩
  | closeException ok =>
    obtain ⟨rfl, _⟩ := Queries.closeException_ok ok
    exact justified_of_same justified rfl fun side => by cases side <;> rfl

/-- In every reachable state every result is justified. -/
lemma justified_reached {tr : List (Sys × Event)} (run : Run (Step config) Sys.initial tr u) :
    ∀ r ∈ u.store.reconciliationResults, Justified config u.store r :=
  (run.invariant (I := fun s : Sys => s.Inv config ∧ ∀ r ∈ s.store.reconciliationResults, Justified config s.store r)
    ⟨.initial config, by rintro r ⟨⟩⟩ fun inv st => ⟨st.inv inv.1, st.justified inv.1 inv.2⟩).2

end Steps
end System

/-! ## What is shown -/

/-- What an item of either list shows of a verdict and of what it is about. -/
structure Shown where
  status : ReconStatus
  matchLayer : MatchLayer
  notes : Option String
  txnId : Option String
  currency : Option String
  gatewayAmount : Option Money
  ledgerAmount : Option Money
  gatewayOccurredAt : Option Datetime
  ledgerOccurredAt : Option Datetime
deriving DecidableEq, Repr

/-- An item of the transaction feed. -/
def ReconciliationResultOut.shown (out : ReconciliationResultOut) : Shown where
  status := out.status
  matchLayer := out.matchLayer
  notes := out.notes
  txnId := out.txnId
  currency := out.currency
  gatewayAmount := out.gatewayAmount
  ledgerAmount := out.ledgerAmount
  gatewayOccurredAt := out.gatewayOccurredAt
  ledgerOccurredAt := out.ledgerOccurredAt

/-- An item of the exception queue. -/
def ExceptionOut.shown (out : ExceptionOut) : Shown where
  status := out.status
  matchLayer := out.matchLayer
  notes := out.notes
  txnId := out.txnId
  currency := out.currency
  gatewayAmount := out.gatewayAmount
  ledgerAmount := out.ledgerAmount
  gatewayOccurredAt := out.gatewayOccurredAt
  ledgerOccurredAt := out.ledgerOccurredAt

/-- What an item shows of a side, if the side is there. -/
def Shown.content (item : Shown) (side : IngestSource) : Option Content := do
  let txnId ← item.txnId
  let currency ← item.currency
  let amount ← match side with
    | .gateway => item.gatewayAmount
    | .ledger => item.ledgerAmount
  let occurredAt ← match side with
    | .gateway => item.gatewayOccurredAt
    | .ledger => item.ledgerOccurredAt
  some ⟨txnId, amount, currency, occurredAt⟩

/-- The verdicts about one side alone. -/
def Shown.isSingle (item : Shown) (side : IngestSource) : Bool :=
  (item.status, item.matchLayer) ∈ [(unmatchedStatus side, .unmatchedSweep), (.duplicate, .duplicate)]

/-- The layer rules, applied to what an item shows. -/
def recheck (config : MatchConfig) (item : Shown) : Bool :=
  match item.content .gateway, item.content .ledger with
  | some g, some l =>
    classifyContent g l config == some (item.status, item.matchLayer) &&
      item.notes == Core.pairNotes (g.facts .gateway) (l.facts .ledger) item.matchLayer config
  | some _, none => item.isSingle .gateway
  | none, some _ => item.isSingle .ledger
  | none, none => false

namespace Queries

section Rechecks
variable {config : MatchConfig} {s s' : Store} {r : ReconciliationResult} {e : Exception_} {side : IngestSource}
  {row g l : RawRow} {tenantId limit exceptionId : ℕ} {cursor : Option ℤ}

/-- The row a result is joined to. -/
lemma joined_eq (ids : ((s.raw side).map RawRow.id).Nodup) (mem : row ∈ s.raw side) (ref : r.rawId side = some row.id) :
    joined s r side = some row := by
  have found : ((s.raw side).find? fun other => other.id == row.id).isSome = true :=
    List.find?_isSome.2 ⟨row, mem, beq_self_eq_true _⟩
  obtain ⟨other, eq⟩ := Option.isSome_iff_exists.1 found
  have same : other.id = row.id := by simpa using List.find?_some eq
  rw [joined, ref, Option.bind_some, eq, eq_of_key ids (List.mem_of_find?_eq_some eq) mem same]

/-- The payment of an item is what its row says. -/
lemma content_gateway (present : joined s r .gateway = some g) :
    (resultOut s r).shown.content .gateway = some g.content := by
  simp only [resultOut, ReconciliationResultOut.shown, present]
  rfl

/-- So is the entry: the identifier and the currency are those of the payment, which it agrees with. -/
lemma content_ledger (present : joined s r .ledger = some l)
    (agree : ∀ g, joined s r .gateway = some g → g.txnId = l.txnId ∧ g.currency = l.currency) :
    (resultOut s r).shown.content .ledger = some l.content := by
  cases other : joined s r .gateway with
  | none =>
    simp only [resultOut, ReconciliationResultOut.shown, present, other]
    rfl
  | some g =>
    obtain ⟨txnId, currency⟩ := agree g other
    have content : (⟨g.txnId, l.amount, g.currency, l.occurredAt⟩ : Content) = l.content := by
      rw [txnId, currency]
      rfl
    rw [← content]
    simp only [resultOut, ReconciliationResultOut.shown, present, other]
    rfl

/-- A side that is not there is not shown. -/
lemma content_absent (absent : joined s r side = none) : (resultOut s r).shown.content side = none := by
  cases side with
  | gateway =>
    simp only [resultOut, ReconciliationResultOut.shown, absent, Shown.content]
    cases joined s r .ledger <;> rfl
  | ledger =>
    simp only [resultOut, ReconciliationResultOut.shown, absent, Shown.content]
    cases joined s r .gateway <;> rfl

/-- A justified result can be checked again. -/
lemma recheck_resultOut (consistent : Consistent s) (justified : System.Justified config s r) :
    recheck config (resultOut s r).shown = true := by
  cases justified with
  | @pair g l memG memL refG refL _ _ verdict notes =>
    have gateway : joined s r .gateway = some g := joined_eq (consistent.rawIds .gateway) memG refG
    have ledger : joined s r .ledger = some l := joined_eq (consistent.rawIds .ledger) memL refL
    have agree := Core.classifyPair_agree verdict
    rw [recheck, content_gateway gateway, content_ledger ledger ?_]
    · show (classifyContent g.content l.content config == some (r.status, r.matchLayer) &&
        r.notes == Core.pairNotes (g.content.facts .gateway) (l.content.facts .ledger) r.matchLayer config) = true
      rw [verdict, notes, beq_self_eq_true, beq_self_eq_true, Bool.and_self]
    · intro g' other
      rw [gateway] at other
      obtain rfl := Option.some.inj other
      exact ⟨agree.txnId, agree.currency⟩
  | @single side row mem ref other _ kind =>
    have own : joined s r side = some row := joined_eq (consistent.rawIds side) mem ref
    have absent : joined s r side.other = none := by rw [joined, other, Option.bind_none]
    have single : (resultOut s r).shown.isSingle side = true := decide_eq_true kind
    cases side with
    | gateway =>
      have hidden : (resultOut s r).shown.content .ledger = none := content_absent absent
      rw [recheck, content_gateway own, hidden]
      exact single
    | ledger =>
      have hidden : (resultOut s r).shown.content .gateway = none := content_absent absent
      have shown : (resultOut s r).shown.content .ledger = some row.content := by
        apply content_ledger own
        intro g present
        rw [show joined s r .gateway = none from absent] at present
        cases present
      rw [recheck, hidden, shown]
      exact single

/-- The rows of a page are rows of the query. -/
lemma mem_of_mem_keysetPage {α : Type} {id : α → ℕ} {rows : List α} {a : α}
    (mem : a ∈ (keysetPage id rows limit cursor).1) : a ∈ rows := by
  simp only [keysetPage] at mem
  split_ifs at mem
  · exact (List.mem_filter.1 ((List.mergeSort_perm _ _).subset (List.mem_of_mem_take (List.mem_of_mem_take mem)))).1
  · exact (List.mem_filter.1 ((List.mergeSort_perm _ _).subset (List.mem_of_mem_take mem))).1

/-- An exception is joined to the result that opened it, which is one of its tenant's. -/
lemma withResult_spec {e' : Exception_} (consistent : Consistent s) (mem : e ∈ s.exceptions)
    (join : withResult s e = some (e', r)) :
    r ∈ s.reconciliationResults ∧ r.status.opensException = true := by
  obtain ⟨r', found, eq⟩ := Option.map_eq_some_iff.1 join
  obtain ⟨rfl, rfl⟩ := Prod.mk.inj eq
  have memR : r' ∈ s.reconciliationResults := List.mem_of_find?_eq_some found
  have ref : r'.id = e.reconciliationResultId := by simpa using List.find?_some found
  exact ⟨memR, (consistent.opened r' memR).2 ⟨e, mem, ref.symm⟩⟩

/-- What the exception queue shows of a verdict is what the feed shows of it. -/
lemma shown_exceptionOut : (exceptionOut s e r).shown = (resultOut s r).shown := rfl

/-- An exception of a justified result can be checked again, and is one. -/
lemma recheck_exceptionOut {e' : Exception_} (consistent : Consistent s)
    (justified : ∀ r ∈ s.reconciliationResults, System.Justified config s r) (mem : e ∈ s.exceptions)
    (join : withResult s e = some (e', r)) :
    recheck config (exceptionOut s e' r).shown = true ∧ (exceptionOut s e' r).status.opensException = true := by
  obtain ⟨memR, opens⟩ := withResult_spec consistent mem join
  rw [shown_exceptionOut]
  exact ⟨recheck_resultOut consistent (justified r memR), opens⟩

/-- The exception a resolution answers with is one of the store it leaves. -/
lemma resolveException_ok {notes : String} {now : Datetime} {out : ExceptionOut}
    (ok : resolveException s tenantId exceptionId notes now = .ok (s', .ok out)) :
    ∃ closed e e' r, closeException s tenantId exceptionId notes now = .ok (s', closed) ∧ e ∈ s'.exceptions ∧
      withResult s' e = some (e', r) ∧ out = exceptionOut s' e' r := by
  cases wrote : closeException s tenantId exceptionId notes now with
  | error failed =>
    rw [resolveException, wrote] at ok
    cases ok
  | ok result =>
    rw [resolveException, wrote] at ok
    cases own : result.2 with
    | none =>
      cases found : fetchException result.1 tenantId exceptionId <;>
        simp [bind, Except.bind, own, found] at ok
    | some closed =>
      cases found : fetchException result.1 tenantId exceptionId with
      | none => simp [bind, Except.bind, own, found] at ok
      | some item =>
        simp only [bind, Except.bind, own, found] at ok
        obtain ⟨rfl, answer⟩ := Prod.mk.inj (Except.ok.inj ok)
        obtain ⟨e, memE, join⟩ := List.mem_filterMap.1 (List.mem_of_head? found)
        exact ⟨_, e, item.1, item.2, rfl, (List.mem_filter.1 memE).1, join, (ResolveAnswer.ok.inj answer).symm⟩

end Rechecks
end Queries

namespace System
variable {config : MatchConfig}

/-- Whatever the read path answers can be checked again: every item of every page of the feed, every item of every
    page of the exception queue, and the item a resolution answers with, in every reachable state. -/
theorem answers_recheck {tr u} (run : Run (Step config) Sys.initial tr u) (tenantId : ℕ) :
    (∀ status limit cursor, ∀ item ∈ (Queries.listTransactions u.store tenantId status limit cursor).items,
      recheck config item.shown = true) ∧
    (∀ filter limit cursor, ∀ item ∈ (Queries.listExceptions u.store tenantId filter limit cursor).items,
      recheck config item.shown = true ∧ item.status.opensException = true) ∧
    ∀ exceptionId notes now store out,
      Queries.resolveException u.store tenantId exceptionId notes now = .ok (store, .ok out) →
        recheck config out.shown = true ∧ out.status.opensException = true := by
  have consistent := (Sys.Inv.reached run).consistent
  have justified := justified_reached run
  refine ⟨?_, ?_, ?_⟩
  · intro status limit cursor item mem
    obtain ⟨r, memR, rfl⟩ := List.mem_map.1 mem
    have row := (List.mem_filter.1 (Queries.mem_of_mem_keysetPage memR)).1
    exact Queries.recheck_resultOut consistent (justified r row)
  · intro filter limit cursor item mem
    obtain ⟨⟨e', r⟩, memR, rfl⟩ := List.mem_map.1 mem
    obtain ⟨e, memE, join⟩ := List.mem_filterMap.1 (Queries.mem_of_mem_keysetPage memR)
    exact Queries.recheck_exceptionOut consistent justified (List.mem_filter.1 memE).1 join
  · intro exceptionId notes now store out ok
    obtain ⟨closed, e, e', r, wrote, memE, join, rfl⟩ := Queries.resolveException_ok ok
    -- the closing is a step of its own, so the store it leaves is a reachable one
    have after := run.snoc (.closeException wrote)
    exact Queries.recheck_exceptionOut (Sys.Inv.reached after).consistent (justified_reached after) memE join

namespace Sample

/-- A payment that no entry ever answers: the sweep gives it up. -/
def givenUpEvents : List Event :=
  [.openAccount Ingest.Sample.account,
    .ingest (.gateway 1 Ingest.Sample.payload "key-1" "null") Ingest.Sample.draws,
    .scan 0 [facts (gatewayRow 0 "key-1") .gateway], .beginRow 0, .find 0 [] (.newYear 5),
    .apply 0 (.newYear 5) (drawsAt 1)]

/-- Its exception, once it is closed. -/
def closedOut : ExceptionOut where
  id := 1
  reconciliationResultId := 1
  openedAt := .newYear 5
  closedAt := some (.newYear 6)
  resolutionNotes := some "written off"
  status := .unmatchedGatewayOnly
  matchLayer := .unmatchedSweep
  gatewayTxnId := some 1
  ledgerEntryId := none
  notes := some "no counterparty after 0s"
  txnId := some "txn-1"
  currency := some "USD"
  gatewayAmount := some Ingest.Sample.payload.amount
  ledgerAmount := none
  gatewayOccurredAt := some (.newYear 0)
  ledgerOccurredAt := none

end Sample

theorem answers_recheck_sample :
    ∃ tr u store, replay (step .shipped) Sys.initial Sample.givenUpEvents = some (tr, u) ∧
      Queries.resolveException u.store 1 1 "written off" (.newYear 6) = .ok (store, .ok Sample.closedOut) ∧
      recheck .shipped Sample.closedOut.shown = true := by
  have runs : ((replay (step .shipped) Sys.initial Sample.givenUpEvents).bind fun p =>
      (Queries.resolveException p.2.store 1 1 "written off" (.newYear 6)).toOption.map Prod.snd) =
      some (.ok Sample.closedOut) := by decide +kernel
  obtain ⟨⟨tr, u⟩, eq, rest⟩ := Option.bind_eq_some_iff.1 runs
  obtain ⟨⟨store, answer⟩, resolved, rfl⟩ := Option.map_eq_some_iff.1 rest
  have ok : Queries.resolveException u.store 1 1 "written off" (.newYear 6) = .ok (store, .ok Sample.closedOut) := by
    cases result : Queries.resolveException u.store 1 1 "written off" (.newYear 6) with
    | error failed =>
      rw [result] at resolved
      cases resolved
    | ok out =>
      rw [result] at resolved
      exact congrArg Except.ok (Option.some.inj resolved)
  exact ⟨tr, u, store, eq, ok, ((answers_recheck (.of_replay step_iff.1 eq) 1).2.2 1 _ _ store _ ok).1⟩

end System
end LedgerLoop
