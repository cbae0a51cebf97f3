import LedgerLoop.Worker.OrderIndependence
import LedgerLoop.Worker.Stats

/-!
# The stats of a planned set of payments

What a client can predict of a tenant's stats. `Ingested` says that the tenant's rows are the submissions,
one for each key; `Reconciled` that its results are those its rows reconcile to, and that there is one
duplicate marker for each row that was submitted again. Both hold of the tables a run of the system ends
with, however its steps interleave.

If the submissions are a list of payments with distinct transaction ids, a gateway row each and a ledger row
for some (`Planned`), the outcomes are those of the payments one by one (`outcomes_perm`), so that a count
by status is a count of payments.
-/

set_option autoImplicit false

namespace LedgerLoop
open LedgerLoop.Library

/-- What matching compares of a transaction. -/
structure Content where
  txnId : String
  amount : Money
  currency : String
  occurredAt : Datetime
deriving DecidableEq, Repr

/-- What matching compares of a row. -/
def RawRow.content (row : RawRow) : Content := ⟨row.txnId, row.amount, row.currency, row.occurredAt⟩

/-- What matching compares of the facts of a row. -/
def TxnFacts.content (f : TxnFacts) : Content := ⟨f.txnId, f.amount, f.currency, f.occurredAt⟩

/-- A submission of one row. -/
structure Submission where
  side : IngestSource
  idempotencyKey : String
  content : Content
deriving DecidableEq, Repr

/-- The facts of a stored row of a tenant. -/
def Store.TenantRow (s : Store) (tenantId : ℕ) (f : TxnFacts) : Prop := s.HasRow f ∧ f.tenantId = tenantId

/-- A row of a tenant that was submitted again. -/
def resubmitted (tenantId : ℕ) (row : RawRow) : Bool :=
  row.tenantId == tenantId && decide (0 < row.duplicateCount)

/-- The rows of a tenant are what was submitted, one for each key, with a tally of the repetitions. -/
structure Ingested (s : Store) (tenantId : ℕ) (submissions : List Submission) : Prop where
  stored : ∀ sub ∈ submissions, ∃ row ∈ s.raw sub.side, row.tenantId = tenantId ∧
    row.idempotencyKey = sub.idempotencyKey ∧ row.content = sub.content
  submitted : ∀ side, ∀ row ∈ s.raw side, row.tenantId = tenantId → ∃ sub ∈ submissions,
    sub.side = side ∧ row.idempotencyKey = sub.idempotencyKey ∧ row.content = sub.content
  tally : ∀ side, ∀ row ∈ s.raw side, row.tenantId = tenantId → row.duplicateCount + 1 =
    submissions.countP fun sub => sub.side == side && sub.idempotencyKey == row.idempotencyKey
  keys : ∀ side, ∀ a ∈ s.raw side, ∀ b ∈ s.raw side, a.tenantId = tenantId → b.tenantId = tenantId →
    a.idempotencyKey = b.idempotencyKey → a = b
  ids : ∀ side, ((s.raw side).map RawRow.id).Nodup

/-- The results of a tenant are what its rows reconcile to, and the rows that were submitted again are
    marked, once each. -/
structure Reconciled (config : MatchConfig) (s : Store) (tenantId : ℕ) : Prop where
  outcomes : ∀ o, o ∈ s.outcomes ∧ o.tenantId = tenantId ↔ Expected config (s.TenantRow tenantId) o
  nodup : s.outcomes.Nodup
  layered : System.Layered s
  markers : (s.reconciliationResults.countP fun r => r.tenantId == tenantId && r.status == .duplicate) =
    (s.raw .gateway).countP (resubmitted tenantId) + (s.raw .ledger).countP (resubmitted tenantId)

section Tenant
variable {config : MatchConfig} {W : TxnFacts → Prop} {tenantId : ℕ} {o : Outcome}

/-- What is expected of a tenant's rows does not depend on the rows of others. -/
lemma expected_tenant : Expected config W o ∧ o.tenantId = tenantId ↔
    Expected config (fun f => W f ∧ f.tenantId = tenantId) o := by
  constructor
  · rintro ⟨ex, rfl⟩
    cases ex with
    | pair own opposite gateway viable =>
      exact .pair ⟨own, rfl⟩ ⟨opposite, (Core.classifyPair_agree viable).tenantId.symm⟩ gateway viable
    | alone waited own single => exact .alone waited ⟨own, rfl⟩ fun f' opposite => single f' opposite.1
  · intro ex
    cases ex with
    | pair own opposite gateway viable => exact ⟨.pair own.1 opposite.1 gateway viable, own.2⟩
    | @alone f waited own single =>
      refine ⟨.alone waited own.1 fun f' opposite => ?_, own.2⟩
      by_contra viable
      obtain ⟨v, viable⟩ := Option.ne_none_iff_exists'.1 viable
      have same := (Core.classifyPair_agree viable).tenantId.symm.trans own.2
      rw [single f' ⟨opposite, same⟩] at viable
      cases viable

/-- A schedule whose rows are marked leaves a tenant reconciled. -/
lemma System.Schedule.reconciled {tr : List (System.Sys × System.Event)} {u : System.Sys}
    (windows : config.exactWindow ≤ config.driftWindow) (a : System.Schedule config tr u)
    (markers : (u.store.reconciliationResults.countP fun r => r.tenantId == tenantId && r.status == .duplicate) =
      (u.store.raw .gateway).countP (resubmitted tenantId) +
        (u.store.raw .ledger).countP (resubmitted tenantId)) : Reconciled config u.store tenantId where
  outcomes o := by rw [a.mem_outcomes windows, expected_tenant]; rfl
  nodup := a.outcomes_nodup windows
  layered := System.layered_reached a.run
  markers := markers

end Tenant

/-- The outcome of a row without a partner. -/
def aloneOutcome (f : TxnFacts) : Outcome := (Core.decideUnmatched f 0).outcome f

/-- The outcomes of a payment: of its pair, or of each of its rows. -/
def paymentOutcomes (config : MatchConfig) (g : TxnFacts) : Option TxnFacts → List Outcome
  | none => [aloneOutcome g]
  | some l =>
    match Core.classifyPair g l config with
    | some (status, layer) => [⟨g.tenantId, some g.rowId, some l.rowId, status, layer⟩]
    | none => [aloneOutcome g, aloneOutcome l]

/-- The rows `W` are those of a list of payments with distinct transaction ids. -/
structure Planned {α : Type*} (W : TxnFacts → Prop) (plan : List α) (g : α → TxnFacts)
    (l : α → Option TxnFacts) : Prop where
  gateway : ∀ p ∈ plan, W (g p) ∧ (g p).side = .gateway
  ledger : ∀ p ∈ plan, ∀ f, l p = some f → W f ∧ f.side = .ledger ∧ f.txnId = (g p).txnId
  only : ∀ f, W f → ∃ p ∈ plan, f = g p ∨ l p = some f
  distinct : (plan.map fun p => (g p).txnId).Nodup
  byId : ∀ f f', W f → W f' → f.side = f'.side → f.rowId = f'.rowId → f = f'

namespace Planned
variable {α : Type*} {config : MatchConfig} {W : TxnFacts → Prop} {plan : List α} {g : α → TxnFacts}
  {l : α → Option TxnFacts} {p q : α} {f f' : TxnFacts} {o : Outcome}

/-- A payment is known by its transaction id. -/
lemma eq_of_txnId (planned : Planned W plan g l) (mem : p ∈ plan) (mem' : q ∈ plan)
    (same : (g p).txnId = (g q).txnId) : p = q :=
  List.inj_on_of_nodup_map planned.distinct mem mem' same

/-- The partner of a payment's gateway row is its ledger row. -/
lemma ledger_of_agree (planned : Planned W plan g l) (mem : p ∈ plan) (own : W f) (agree : (g p).Agree f) :
    l p = some f := by
  obtain ⟨q, memQ, rfl | row⟩ := planned.only f own
  · have side := agree.side
    rw [(planned.gateway q memQ).2, (planned.gateway p mem).2] at side
    cases side
  · obtain rfl := planned.eq_of_txnId mem memQ (agree.txnId.trans (planned.ledger q memQ f row).2.2)
    exact row

/-- The partner of a payment's ledger row is its gateway row. -/
lemma gateway_of_agree (planned : Planned W plan g l) (mem : p ∈ plan) (row : l p = some f) (own : W f')
    (agree : f.Agree f') : f' = g p := by
  obtain ⟨_, side, txnId⟩ := planned.ledger p mem f row
  obtain ⟨q, memQ, rfl | row'⟩ := planned.only f' own
  · rw [planned.eq_of_txnId mem memQ (txnId.symm.trans agree.txnId)]
  · have other := agree.side
    rw [(planned.ledger q memQ f' row').2.1, side] at other
    cases other

/-- The expected outcomes are those of the payments. -/
lemma expected_iff (planned : Planned W plan g l) :
    Expected config W o ↔ o ∈ plan.flatMap fun p => paymentOutcomes config (g p) (l p) := by
  rw [List.mem_flatMap]
  constructor
  · intro ex
    cases ex with
    | @pair g' l' status layer own opposite gateway viable =>
      obtain ⟨p, mem, rfl | row⟩ := planned.only g' own
      · have row := planned.ledger_of_agree mem opposite (Core.classifyPair_agree viable)
        refine ⟨p, mem, ?_⟩
        simp only [row, paymentOutcomes, viable, List.mem_singleton]
      · rw [(planned.ledger p mem g' row).2.1] at gateway
        cases gateway
    | @alone f waited own single =>
      have same : (Core.decideUnmatched f waited).outcome f = aloneOutcome f := rfl
      rw [same]
      obtain ⟨p, mem, rfl | row⟩ := planned.only f own
      · refine ⟨p, mem, ?_⟩
        cases eq : l p with
        | none => exact List.mem_singleton_self _
        | some f' => simp [paymentOutcomes, single f' (planned.ledger p mem f' eq).1]
      · refine ⟨p, mem, ?_⟩
        have none_ := Core.classifyPair_comm.trans (single (g p) (planned.gateway p mem).1)
        simp [row, paymentOutcomes, none_]
  · rintro ⟨p, mem, listed⟩
    have own := planned.gateway p mem
    cases eq : l p with
    | none =>
      rw [eq] at listed
      obtain rfl := List.mem_singleton.1 listed
      refine .alone 0 own.1 fun f' opposite => ?_
      by_contra viable
      obtain ⟨v, viable⟩ := Option.ne_none_iff_exists'.1 viable
      rw [planned.ledger_of_agree mem opposite (Core.classifyPair_agree viable)] at eq
      cases eq
    | some f =>
      have row := planned.ledger p mem f eq
      simp only [eq, paymentOutcomes] at listed
      cases verdict : Core.classifyPair (g p) f config with
      | some v =>
        rw [verdict] at listed
        obtain rfl := List.mem_singleton.1 listed
        exact .pair own.1 row.1 own.2 verdict
      | none =>
        simp only [verdict, List.mem_cons, List.not_mem_nil, or_false] at listed
        rcases listed with rfl | rfl
        · refine .alone 0 own.1 fun f' opposite => ?_
          by_contra viable
          obtain ⟨v, viable⟩ := Option.ne_none_iff_exists'.1 viable
          have partner := planned.ledger_of_agree mem opposite (Core.classifyPair_agree viable)
          rw [eq] at partner
          obtain rfl := Option.some.inj partner
          rw [verdict] at viable
          cases viable
        · refine .alone 0 row.1 fun f' opposite => ?_
          by_contra viable
          obtain ⟨v, viable⟩ := Option.ne_none_iff_exists'.1 viable
          obtain rfl := planned.gateway_of_agree mem eq opposite (Core.classifyPair_agree viable)
          rw [Core.classifyPair_comm, verdict] at viable
          cases viable

/-- An outcome of a payment references its gateway row, or its ledger row alone. -/
lemma rawId_of_mem (planned : Planned W plan g l) (mem : p ∈ plan)
    (listed : o ∈ paymentOutcomes config (g p) (l p)) : o.rawId .gateway = some (g p).rowId ∨
      o.rawId .gateway = none ∧ ∃ f, l p = some f ∧ o.rawId .ledger = some f.rowId := by
  have own := (planned.gateway p mem).2
  have alone : (aloneOutcome (g p)).rawId .gateway = some (g p).rowId := by
    simp [aloneOutcome, Decision.rowId, Core.decideUnmatched, own]
  cases eq : l p with
  | none =>
    rw [eq] at listed
    obtain rfl := List.mem_singleton.1 listed
    exact .inl alone
  | some f =>
    have side := (planned.ledger p mem f eq).2.1
    simp only [eq, paymentOutcomes] at listed
    split at listed
    · obtain rfl := List.mem_singleton.1 listed
      exact .inl rfl
    · simp only [List.mem_cons, List.not_mem_nil, or_false] at listed
      rcases listed with rfl | rfl
      · exact .inl alone
      · refine .inr ⟨?_, f, rfl, ?_⟩ <;> simp [aloneOutcome, Decision.rowId, Core.decideUnmatched, side]

/-- No outcome is expected of two payments, or of one payment twice. -/
lemma nodup_outcomes (planned : Planned W plan g l) :
    (plan.flatMap fun p => paymentOutcomes config (g p) (l p)).Nodup := by
  have keys := planned.distinct.of_map
  refine List.nodup_flatMap.2 ⟨fun p mem => ?_, keys.pairwise_of_forall_ne fun p mem q mem' ne o here there => ?_⟩
  · cases eq : l p with
    | none => exact List.nodup_singleton _
    | some f =>
      have own := (planned.gateway p mem).2
      have side := (planned.ledger p mem f eq).2.1
      simp only [paymentOutcomes]
      split
      · exact List.nodup_singleton _
      · simp [aloneOutcome, Decision.outcome, Core.decideUnmatched, own, side]
  · apply ne
    rcases planned.rawId_of_mem mem here with ref | ⟨none_, f, row, ref⟩ <;>
      rcases planned.rawId_of_mem mem' there with ref' | ⟨none', f', row', ref'⟩
    · have rowId := Option.some.inj (ref.symm.trans ref')
      obtain ⟨own, side⟩ := planned.gateway p mem
      obtain ⟨own', side'⟩ := planned.gateway q mem'
      exact planned.eq_of_txnId mem mem' (congrArg _ (planned.byId _ _ own own' (side.trans side'.symm) rowId))
    · rw [ref] at none'
      cases none'
    · rw [none_] at ref'
      cases ref'
    · have rowId := Option.some.inj (ref.symm.trans ref')
      obtain ⟨own, side, txnId⟩ := planned.ledger p mem f row
      obtain ⟨own', side', txnId'⟩ := planned.ledger q mem' f' row'
      obtain rfl := planned.byId _ _ own own' (side.trans side'.symm) rowId
      exact planned.eq_of_txnId mem mem' (txnId.symm.trans txnId')

end Planned

section Counts
variable {α : Type*} {config : MatchConfig} {s : Store} {tenantId : ℕ} {plan : List α} {g : α → TxnFacts}
  {l : α → Option TxnFacts}

/-- The outcomes of the tenant are those of the payments. -/
lemma outcomes_perm (reconciled : Reconciled config s tenantId)
    (planned : Planned (s.TenantRow tenantId) plan g l) :
    (s.outcomes.filter (·.tenantId == tenantId)).Perm
      (plan.flatMap fun p => paymentOutcomes config (g p) (l p)) := by
  refine (List.perm_ext_iff_of_nodup (reconciled.nodup.filter _) planned.nodup_outcomes).2 fun o => ?_
  rw [← planned.expected_iff, ← reconciled.outcomes, List.mem_filter, beq_iff_eq]

/-- Results are counted among the outcomes of the payments. -/
lemma countP_results (reconciled : Reconciled config s tenantId)
    (planned : Planned (s.TenantRow tenantId) plan g l) {kinds : α → List (ReconStatus × MatchLayer)}
    (predicted : ∀ p ∈ plan, (paymentOutcomes config (g p) (l p)).map (fun o => (o.status, o.matchLayer)) = kinds p)
    {P : ReconStatus × MatchLayer → Bool}
    (active : ∀ r ∈ s.reconciliationResults, P (r.status, r.matchLayer) = true → r.active = true) :
    (s.reconciliationResults.countP fun r => r.tenantId == tenantId && P (r.status, r.matchLayer)) =
      (plan.flatMap kinds).countP P := by
  have kind : (plan.flatMap fun p => paymentOutcomes config (g p) (l p)).map (fun o => (o.status, o.matchLayer)) =
      plan.flatMap kinds := by
    rw [List.map_flatMap]
    exact List.flatMap_congr predicted
  have counted := (outcomes_perm reconciled planned).countP_eq fun o => P (o.status, o.matchLayer)
  rw [← kind, List.countP_map]
  refine Eq.trans ?_ counted
  rw [List.countP_filter, Store.outcomes, List.countP_map, List.countP_filter]
  refine List.countP_congr fun r mem => ?_
  simp only [Function.comp_apply, ReconciliationResult.outcome, Bool.and_eq_true]
  constructor
  · rintro ⟨tenant, holds⟩
    exact ⟨⟨holds, tenant⟩, active r mem holds⟩
  · rintro ⟨⟨holds, tenant⟩, _⟩
    exact ⟨tenant, holds⟩

/-- The gateway rows that were submitted again are those of the payments that were. -/
lemma countP_gateway (planned : Planned (s.TenantRow tenantId) plan g l)
    (ids : ((s.raw .gateway).map RawRow.id).Nodup) {again : α → Bool}
    (tally : ∀ p ∈ plan, ∀ row ∈ s.raw .gateway, facts row .gateway = g p →
      (0 < row.duplicateCount ↔ again p = true)) :
    (s.raw .gateway).countP (resubmitted tenantId) = plan.countP again := by
  have rows : (((s.raw .gateway).filter (resubmitted tenantId)).map fun row => facts row .gateway).Nodup := by
    refine List.Nodup.of_map TxnFacts.rowId ?_
    rw [List.map_map]
    exact (List.filter_sublist.map _).nodup ids
  have payments : ((plan.filter again).map g).Nodup := by
    refine List.Nodup.of_map TxnFacts.txnId ?_
    rw [List.map_map]
    exact (List.filter_sublist.map _).nodup planned.distinct
  have same := (List.perm_ext_iff_of_nodup rows payments).2 fun f => ?_
  · rw [List.countP_eq_length_filter, List.countP_eq_length_filter]
    simpa using same.length_eq
  · simp only [List.mem_map, List.mem_filter, resubmitted, Bool.and_eq_true, beq_iff_eq, decide_eq_true_eq]
    constructor
    · rintro ⟨row, ⟨mem, tenant, again_⟩, rfl⟩
      obtain ⟨p, memP, eq | eq⟩ := planned.only (facts row .gateway) ⟨⟨row, mem, rfl⟩, tenant⟩
      · exact ⟨p, ⟨memP, (tally p memP row mem eq).1 again_⟩, eq.symm⟩
      · cases (planned.ledger p memP _ eq).2.1
    · rintro ⟨p, ⟨memP, again_⟩, rfl⟩
      obtain ⟨⟨⟨row, mem, same⟩, tenant⟩, side⟩ := planned.gateway p memP
      rw [side] at mem same
      have rowTenant : row.tenantId = tenantId := (congrArg TxnFacts.tenantId same).trans tenant
      exact ⟨row, ⟨mem, rowTenant, (tally p memP row mem same).2 again_⟩, same⟩

/-- A window that covers the tenant's results shows all of them. -/
lemma windowRows_eq {window : WindowName} {now : Datetime}
    (covers : ∀ r ∈ s.reconciliationResults, r.tenantId = tenantId →
      (now.us - Timedelta.seconds window.seconds : ℤ) ≤ r.resolvedAt.us) :
    Queries.windowRows s tenantId window now = s.reconciliationResults.filter (·.tenantId == tenantId) := by
  refine List.filter_congr fun r mem => ?_
  by_cases tenant : r.tenantId = tenantId
  · simp [tenant, covers r mem tenant]
  · simp [tenant]

end Counts
end LedgerLoop
