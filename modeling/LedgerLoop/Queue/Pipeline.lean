import LedgerLoop.Queue.Marking
import LedgerLoop.Worker.Contents

/-!
# The pipeline computes a reconciliation

What the whole pipeline is for, as a function of the log of submissions alone. `Findings` lists, under the
idempotency keys of the log, a verdict for each viable pair, one for each row without a partner, and a marker
for each key that was submitted again. `pipeline_correct` says that whatever the relays, the consumers, their
crashes, the matchers and the sweepers have done, a tenant's results are these once every event is through.
-/

set_option autoImplicit false

namespace LedgerLoop
open LedgerLoop.Library

/-- A result in terms of idempotency keys. -/
structure Finding where
  gatewayKey : Option String
  ledgerKey : Option String
  status : ReconStatus
  matchLayer : MatchLayer
deriving DecidableEq, Repr

/-- A finding about one submission. -/
def Finding.single (side : IngestSource) (key : String) (status : ReconStatus) (layer : MatchLayer) : Finding where
  gatewayKey := if side = .gateway then some key else none
  ledgerKey := if side = .gateway then none else some key
  status := status
  matchLayer := layer

/-- The key of a finding on a side. -/
def Finding.key (f : Finding) : IngestSource → Option String
  | .gateway => f.gatewayKey
  | .ledger => f.ledgerKey

/-- What the submissions reconcile to: each viable pair, each submission without one, each repeated key. -/
inductive Findings (config : MatchConfig) (submitted : IngestSource → String → Option (Content × ℕ)) :
    Finding → Prop where
  | pair {gatewayKey ledgerKey gateway ledger n n' status layer} :
    submitted .gateway gatewayKey = some (gateway, n) →
    submitted .ledger ledgerKey = some (ledger, n') →
    classifyContent gateway ledger config = some (status, layer) →
    Findings config submitted ⟨some gatewayKey, some ledgerKey, status, layer⟩
  | alone {side key content n} :
    submitted side key = some (content, n) →
    (∀ key' content' n', submitted side.other key' = some (content', n') →
      classifySides side content content' config = none) →
    Findings config submitted (.single side key (unmatchedStatus side) .unmatchedSweep)
  | again {side key content n} :
    submitted side key = some (content, n) →
    1 < n →
    Findings config submitted (.single side key .duplicate .duplicate)

/-- The idempotency key of a stored row. -/
def Store.keyOf (s : Store) (side : IngestSource) (id : ℕ) : Option String :=
  ((s.raw side).find? fun row => row.id == id).map RawRow.idempotencyKey

/-- A result in terms of the keys of its rows. -/
def Store.finding (s : Store) (r : ReconciliationResult) : Finding where
  gatewayKey := r.gatewayTxnId.bind (s.keyOf .gateway)
  ledgerKey := r.ledgerEntryId.bind (s.keyOf .ledger)
  status := r.status
  matchLayer := r.matchLayer

section Keys
variable {config : MatchConfig} {s : Store} {side : IngestSource} {row row' : RawRow}
  {r : ReconciliationResult} {v : ReconStatus × MatchLayer}

lemma keyOf_row (ids : ((s.raw side).map RawRow.id).Nodup) (mem : row ∈ s.raw side) :
    s.keyOf side row.id = some row.idempotencyKey := by
  have found : ((s.raw side).find? fun r => r.id == row.id).isSome = true :=
    List.find?_isSome.2 ⟨row, mem, beq_self_eq_true _⟩
  obtain ⟨r, eq⟩ := Option.isSome_iff_exists.1 found
  have same : r.id = row.id := by simpa using List.find?_some eq
  rw [Store.keyOf, eq, Option.map_some, eq_of_key ids (List.mem_of_find?_eq_some eq) mem same]

/-- The keys of a finding are those of the rows its result references. -/
lemma Store.finding_key : (s.finding r).key side = (r.rawId side).bind (s.keyOf side) := by
  cases side <;> rfl

/-- A finding is known by its keys, its status and its layer. -/
lemma Finding.ext_keys {f f' : Finding} (keys : ∀ side, f.key side = f'.key side) (status : f.status = f'.status)
    (layer : f.matchLayer = f'.matchLayer) : f = f' := by
  cases f
  cases f'
  simp only [Finding.mk.injEq]
  exact ⟨keys .gateway, keys .ledger, status, layer⟩

lemma Finding.single_key {key : String} {status : ReconStatus} {layer : MatchLayer} :
    (Finding.single side key status layer).key side = some key ∧
      (Finding.single side key status layer).key side.other = none := by
  cases side <;> exact ⟨rfl, rfl⟩

/-- The finding of a result about one row. -/
lemma finding_single {side : IngestSource} (ids : ((s.raw side).map RawRow.id).Nodup) (mem : row ∈ s.raw side)
    (ref : r.rawId side = some row.id) (other : r.rawId side.other = none) :
    s.finding r = .single side row.idempotencyKey r.status r.matchLayer := by
  refine Finding.ext_keys (fun t => ?_) rfl rfl
  rw [Store.finding_key]
  by_cases eq : t = side
  · subst eq
    rw [ref, Option.bind_some, keyOf_row ids mem, Finding.single_key.1]
  · obtain rfl : t = side.other := IngestSource.eq_other_of_ne (Ne.symm eq)
    rw [other, Option.bind_none, Finding.single_key.2]

/-- The finding of a result about a pair. -/
lemma finding_pair (ids : ∀ side, ((s.raw side).map RawRow.id).Nodup) (mem : row ∈ s.raw .gateway)
    (mem' : row' ∈ s.raw .ledger) (ref : r.gatewayTxnId = some row.id) (ref' : r.ledgerEntryId = some row'.id) :
    s.finding r = ⟨some row.idempotencyKey, some row'.idempotencyKey, r.status, r.matchLayer⟩ := by
  rw [Store.finding, ref, ref', Option.bind_some, Option.bind_some, keyOf_row (ids .gateway) mem,
    keyOf_row (ids .ledger) mem']

end Keys

namespace Queue
open LedgerLoop.System

/-- A run of delivery in which every event has been handled and no row is left pending, no account was deleted,
    transaction ids identify a tenant's rows, and a sweep of a row begins after the opposite row has
    committed. -/
structure Drained (config : MatchConfig) (settings : QueueSettings) (tr : List (Delivery × Event)) (d : Delivery) :
    Prop where
  run : Run (Step config settings) Delivery.initial tr d
  kept : ∀ p ∈ tr, ∀ accountId, p.2 ≠ .database (.deleteAccount accountId)
  unique : ∀ side, ∀ a ∈ d.sys.store.raw side, ∀ b ∈ d.sys.store.raw side,
    a.tenantId = b.tenantId → a.txnId = b.txnId → a = b
  patient : ∀ p ∈ tr, ∀ w candidate rest, p.2 = .database (.beginRow w) →
    p.1.sys.workers w = .sweeping (candidate :: rest) → ∀ row ∈ d.sys.store.raw candidate.side.other,
      row.tenantId = candidate.tenantId → row.txnId = candidate.txnId →
        p.1.sys.store.hasRaw candidate.side.other row.id = true
  settled : ∀ side, ∀ row ∈ d.sys.store.raw side, row.pending = false
  through : ∀ event ∈ d.sys.store.outboxEvents, ¬Waiting d event

/-- The log of what a tenant submitted under delivery. -/
abbrev submitted (tenantId : ℕ) (tr : List (Delivery × Event)) : IngestSource → String → Option (Content × ℕ) :=
  keptOf (submissionsOf tenantId (systemTrace tr))

/-- The results of a tenant, in terms of its keys. -/
def findings (d : Delivery) (tenantId : ℕ) : List Finding :=
  (d.sys.store.reconciliationResults.filter (·.tenantId == tenantId)).map d.sys.store.finding

section Drained
variable {config : MatchConfig} {settings : QueueSettings} {tr : List (Delivery × Event)} {d : Delivery}
  {tenantId : ℕ} {side : IngestSource} {key : String} {row : RawRow} {r : ReconciliationResult} {f : Finding}

/-- A step the queue does not drive is in the trace as it is. -/
lemma of_mem_systemTrace {p : Sys × System.Event} (mem : p ∈ systemTrace tr)
    (driven : ∀ w, p.2.worker = some w → p.2 = .beginRow w) :
    ∃ q ∈ tr, q.1.sys.unpublished = p.1 ∧ q.2 = .database p.2 := by
  obtain ⟨⟨d, e⟩, memQ, eq⟩ := List.mem_filterMap.1 mem
  obtain ⟨e', event, rfl⟩ := Option.map_eq_some_iff.1 eq
  refine ⟨(d, e), memQ, rfl, ?_⟩
  cases e with
  | database e => rw [Option.some.inj event]
  | load w =>
    obtain ⟨_, _, rfl⟩ := Option.map_eq_some_iff.1 event
    cases driven w rfl
  | ack w | crash w =>
    obtain rfl := Option.some.inj event
    cases driven w rfl
  | claim | publish | mark | commit | abort | ensureGroup | dropGroup | claimStale | skipClaim | read | finish =>
    cases event

/-- What the database does in a drained run is a schedule of the interleaved system. -/
lemma Drained.schedule (drained : Drained config settings tr d) :
    System.Schedule config (systemTrace tr) d.sys.unpublished where
  run := systemRun drained.run
  kept p mem accountId eq := by
    obtain ⟨q, memQ, _, same⟩ := of_mem_systemTrace mem fun w named => by rw [eq] at named; cases named
    exact drained.kept q memQ accountId (same.trans (congrArg _ eq))
  unique side a memA b memB := drained.unique side a (Store.raw_unpublished ▸ memA) b (Store.raw_unpublished ▸ memB)
  patient p mem w candidate rest begin_ sweeping row memRow tenant txn := by
    obtain ⟨q, memQ, sys, same⟩ := of_mem_systemTrace mem fun w' named => by
      rw [begin_] at named ⊢
      rw [Option.some.inj named]
    have stored := drained.patient q memQ w candidate rest (same.trans (congrArg _ begin_))
      (by rw [← sweeping, ← sys]; rfl) row (Store.raw_unpublished ▸ memRow) tenant txn
    rw [← sys]
    rw [Store.hasRaw] at stored ⊢
    exact (congrArg (List.any · _) Store.raw_unpublished).trans stored
  settled side row mem := drained.settled side row (Store.raw_unpublished ▸ mem)

/-- The active results are what the rows reconcile to. -/
lemma Drained.expected (windows : config.exactWindow ≤ config.driftWindow)
    (drained : Drained config settings tr d) {o : Outcome} :
    o ∈ d.sys.store.outcomes ↔ Expected config d.sys.store.HasRow o := by
  have rows : d.sys.unpublished.store.HasRow = d.sys.store.HasRow := by
    funext f
    rw [Store.HasRow, Store.HasRow, Sys.unpublished, Store.raw_unpublished]
  rw [← rows]
  exact drained.schedule.mem_outcomes windows

lemma Drained.keptOf_row (drained : Drained config settings tr d) (mem : row ∈ d.sys.store.raw side)
    (tenant : row.tenantId = tenantId) :
    submitted tenantId tr side row.idempotencyKey = some (row.content, row.duplicateCount + 1) :=
  System.keptOf_row (systemRun drained.run) (Store.raw_unpublished ▸ mem) tenant

lemma Drained.exists_row (drained : Drained config settings tr d) {content : Content} {n : ℕ}
    (kept : submitted tenantId tr side key = some (content, n)) :
    ∃ row ∈ d.sys.store.raw side, row.tenantId = tenantId ∧ row.idempotencyKey = key ∧ row.content = content ∧
      row.duplicateCount + 1 = n := by
  obtain ⟨row, mem, same⟩ := exists_row_of_keptOf (systemRun drained.run) kept
  exact ⟨row, Store.raw_unpublished ▸ mem, same⟩

/-- Every result references a row of its tenant. -/
lemma Drained.exists_ref (windows : config.exactWindow ≤ config.driftWindow)
    (drained : Drained config settings tr d) (mem : r ∈ d.sys.store.reconciliationResults) :
    ∃ side, ∃ row ∈ d.sys.store.raw side, r.rawId side = some row.id ∧ row.tenantId = r.tenantId := by
  cases active : r.active with
  | false =>
    obtain ⟨side, row, memRow, ref, _, tenant, _⟩ := exists_row_of_marker drained.run mem active
    exact ⟨side, row, memRow, ref, tenant⟩
  | true =>
    have listed : r.outcome ∈ d.sys.store.outcomes :=
      List.mem_map_of_mem (List.mem_filter.2 ⟨mem, active⟩)
    obtain ⟨f, _, ref⟩ := ((drained.expected windows).1 listed).exists_row
    rw [ReconciliationResult.outcome_rawId] at ref
    obtain ⟨row, memRow, same, tenant⟩ := (sysInv_reached drained.run).consistent.references r mem _ _ ref
    exact ⟨f.side, row, memRow, same ▸ ref, tenant⟩

/-- A finding of the tables is one of the log. -/
lemma Drained.sound (windows : config.exactWindow ≤ config.driftWindow) (drained : Drained config settings tr d)
    (mem : r ∈ d.sys.store.reconciliationResults) (tenant : r.tenantId = tenantId) :
    Findings config (submitted tenantId tr) (d.sys.store.finding r) := by
  have ids := (sysInv_reached drained.run).consistent.rawIds
  have layer : r.matchLayer ∈ r.status.layers := layered_reached (systemRun drained.run) r mem
  cases active : r.active with
  | false =>
    obtain ⟨side, row, memRow, ref, other, own, again⟩ := exists_row_of_marker drained.run mem active
    have status : r.status = .duplicate := by simpa [ReconciliationResult.active] using active
    rw [status] at layer
    rw [finding_single (ids side) memRow ref other, status, List.mem_singleton.1 layer]
    exact .again (drained.keptOf_row memRow (own.trans tenant)) (by omega)
  | true =>
    have listed : r.outcome ∈ d.sys.store.outcomes := List.mem_map_of_mem (List.mem_filter.2 ⟨mem, active⟩)
    have ex := (drained.expected windows).1 listed
    generalize outcome : r.outcome = o at ex
    cases ex with
    | @pair g l status layer' own opposite gateway viable =>
      have agree := Core.classifyPair_agree viable
      obtain ⟨rowG, memG, factsG⟩ := own
      obtain ⟨rowL, memL, factsL⟩ := opposite
      rw [gateway] at memG factsG
      rw [agree.side, gateway] at memL factsL
      have refs := Outcome.mk.inj outcome
      have tenantG : rowG.tenantId = tenantId :=
        (congrArg TxnFacts.tenantId factsG).trans (refs.1.symm.trans tenant)
      have tenantL : rowL.tenantId = tenantId := by
        rw [← tenantG]
        exact (congrArg TxnFacts.tenantId factsL).trans
          (agree.tenantId.symm.trans (congrArg TxnFacts.tenantId factsG).symm)
      rw [← factsG, ← factsL] at viable
      rw [finding_pair ids memG memL (refs.2.1.trans (by rw [← factsG]; rfl))
        (refs.2.2.1.trans (by rw [← factsL]; rfl)), refs.2.2.2.1, refs.2.2.2.2]
      refine .pair (drained.keptOf_row memG tenantG) (drained.keptOf_row memL tenantL) ?_
      exact (classifyPair_content (tenantG.trans tenantL.symm)).symm.trans viable
    | @alone f waited own single =>
      obtain ⟨row, memRow, same⟩ := own
      have refs := Outcome.mk.inj outcome
      have own : row.tenantId = tenantId := (congrArg TxnFacts.tenantId same).trans (refs.1.symm.trans tenant)
      have rowId : row.id = f.rowId := congrArg TxnFacts.rowId same
      have ref : r.rawId f.side = some row.id ∧ r.rawId f.side.other = none := by
        rw [← r.outcome_rawId, ← r.outcome_rawId, outcome, rowId]
        cases h : f.side <;> simp [Decision.rowId, Core.decideUnmatched, h, IngestSource.other]
      rw [finding_single (ids f.side) memRow ref.1 ref.2, refs.2.2.2.1, refs.2.2.2.2]
      refine .alone (drained.keptOf_row memRow own) fun key content n opposite => ?_
      obtain ⟨row', mem', tenant', rfl, rfl, _⟩ := drained.exists_row opposite
      rw [← classifyPair_sides (own.trans tenant'.symm), same]
      exact single _ ⟨row', mem', rfl⟩

/-- A finding of the log is one of the tables. -/
lemma Drained.complete (windows : config.exactWindow ≤ config.driftWindow) (drained : Drained config settings tr d)
    (found : Findings config (submitted tenantId tr) f) :
    ∃ r ∈ d.sys.store.reconciliationResults, r.tenantId = tenantId ∧ d.sys.store.finding r = f := by
  have consistent := (sysInv_reached drained.run).consistent
  have ids := consistent.rawIds
  have of_outcome {o : Outcome} (ex : Expected config d.sys.store.HasRow o) :
      ∃ r ∈ d.sys.store.reconciliationResults, r.outcome = o := by
    obtain ⟨r, mem, eq⟩ := List.mem_map.1 ((drained.expected windows).2 ex)
    exact ⟨r, (List.mem_filter.1 mem).1, eq⟩
  cases found with
  | @pair gatewayKey ledgerKey gateway ledger n n' status layer heldG heldL viable =>
    obtain ⟨rowG, memG, tenantG, rfl, rfl, _⟩ := drained.exists_row heldG
    obtain ⟨rowL, memL, tenantL, rfl, rfl, _⟩ := drained.exists_row heldL
    rw [← classifyPair_content (tenantG.trans tenantL.symm)] at viable
    obtain ⟨r, mem, outcome⟩ := of_outcome (.pair ⟨rowG, memG, rfl⟩ ⟨rowL, memL, rfl⟩ rfl viable)
    obtain ⟨tenant, refG, refL, rfl, rfl⟩ := Outcome.mk.inj outcome
    exact ⟨r, mem, tenant.trans tenantG, finding_pair ids memG memL refG refL⟩
  | @alone side key content n held single =>
    obtain ⟨row, memRow, own, rfl, rfl, _⟩ := drained.exists_row held
    have ex : Expected config d.sys.store.HasRow
        ((Core.decideUnmatched (facts row side) 0).outcome (facts row side)) := by
      refine .alone 0 ⟨row, memRow, rfl⟩ fun f' opposite => ?_
      by_contra viable
      obtain ⟨v, viable⟩ := Option.ne_none_iff_exists'.1 viable
      have agree := Core.classifyPair_agree viable
      obtain ⟨row', mem', same⟩ := opposite
      rw [agree.side, Persist.facts_side] at mem' same
      have tenant' : row'.tenantId = row.tenantId := (congrArg TxnFacts.tenantId same).trans agree.tenantId.symm
      rw [← same, classifyPair_sides tenant'.symm,
        single _ _ _ (drained.keptOf_row mem' (tenant'.trans own))] at viable
      cases viable
    obtain ⟨r, mem, outcome⟩ := of_outcome ex
    obtain ⟨tenant, _, _, status, layer⟩ := Outcome.mk.inj outcome
    have ref : r.rawId side = some row.id ∧ r.rawId side.other = none := by
      rw [← r.outcome_rawId, ← r.outcome_rawId, outcome]
      cases side <;> simp [Decision.rowId, Core.decideUnmatched, IngestSource.other]
    refine ⟨r, mem, tenant.trans own, ?_⟩
    rw [finding_single (ids side) memRow ref.1 ref.2, status, layer]
    cases side <;> rfl
  | @again side key content n held many =>
    obtain ⟨row, memRow, own, rfl, rfl, rfl⟩ := drained.exists_row held
    obtain ⟨event, memE, repeats⟩ := (Marking.reached drained.run).sys.announced side row memRow (by omega)
    obtain ⟨rfl, rowId, dup⟩ := Ingest.repeats_iff.1 repeats
    obtain ⟨r, mem, inactive, ref⟩ :=
      (handled_of_through drained.run memE (drained.through event memE)).marked dup row memRow rowId.symm
    rw [rowId] at ref
    -- a marker is of one row
    obtain ⟨side', row', memRow', ref', other, tenant, _⟩ := exists_row_of_marker drained.run mem inactive
    have side : event.payload.source = side' := by
      by_contra ne
      rw [IngestSource.eq_other_of_ne (Ne.symm ne), other] at ref
      cases ref
    subst side
    obtain rfl := eq_of_key (ids _) memRow' memRow (Option.some.inj (ref'.symm.trans ref))
    have status : r.status = .duplicate := by simpa [ReconciliationResult.active] using inactive
    have layer : r.matchLayer ∈ r.status.layers := layered_reached (systemRun drained.run) r mem
    rw [status] at layer
    refine ⟨r, mem, tenant.symm.trans own, ?_⟩
    rw [finding_single (ids _) memRow ref other, status, List.mem_singleton.1 layer]

/-- Results with one finding are one. -/
lemma Drained.injective (windows : config.exactWindow ≤ config.driftWindow)
    (drained : Drained config settings tr d) {r' : ReconciliationResult}
    (mem : r ∈ d.sys.store.reconciliationResults) (mem' : r' ∈ d.sys.store.reconciliationResults)
    (tenant : r.tenantId = r'.tenantId) (same : d.sys.store.finding r = d.sys.store.finding r') : r = r' := by
  have consistent := (sysInv_reached drained.run).consistent
  obtain ⟨side, row, memRow, ref, own⟩ := drained.exists_ref windows mem
  have key := congrArg (Finding.key · side) same
  simp only [Store.finding_key] at key
  rw [ref, Option.bind_some, keyOf_row (consistent.rawIds side) memRow] at key
  obtain ⟨id, ref', found⟩ := Option.bind_eq_some_iff.1 key.symm
  obtain ⟨row', memRow', rfl, own'⟩ := consistent.references r' mem' side id ref'
  rw [keyOf_row (consistent.rawIds side) memRow'] at found
  obtain rfl := keyed_reached drained.run side row' memRow' row memRow (own'.trans (tenant.symm.trans own.symm))
    (Option.some.inj found)
  have status : r.status = r'.status := congrArg Finding.status same
  have active : r.active = r'.active := by
    unfold ReconciliationResult.active
    rw [status]
  exact consistent.unique r'.active side r mem r' mem' active rfl _ ref ref'

/-- No finding is made twice. -/
lemma Drained.nodup_findings (windows : config.exactWindow ≤ config.driftWindow)
    (drained : Drained config settings tr d) : (findings d tenantId).Nodup := by
  have results := (sysInv_reached drained.run).consistent.resultIds.of_map
  refine (results.filter _).map_on fun r mem r' mem' same => ?_
  obtain ⟨mem, tenant⟩ := List.mem_filter.1 mem
  obtain ⟨mem', tenant'⟩ := List.mem_filter.1 mem'
  exact drained.injective windows mem mem' ((beq_iff_eq.1 tenant).trans (beq_iff_eq.1 tenant').symm) same

/-- The findings of the tables are those of the log. -/
lemma Drained.mem_findings (windows : config.exactWindow ≤ config.driftWindow)
    (drained : Drained config settings tr d) :
    f ∈ findings d tenantId ↔ Findings config (submitted tenantId tr) f := by
  rw [findings, List.mem_map]
  constructor
  · rintro ⟨r, mem, rfl⟩
    obtain ⟨mem, tenant⟩ := List.mem_filter.1 mem
    exact drained.sound windows mem (beq_iff_eq.1 tenant)
  · intro found
    obtain ⟨r, mem, tenant, eq⟩ := drained.complete windows found
    exact ⟨r, List.mem_filter.2 ⟨mem, beq_iff_eq.2 tenant⟩, eq⟩

/-- Once every event is through, a tenant's results are the reconciliation of what it submitted: a verdict for
    each viable pair, one for each submission without a partner, a marker for each repeated key, once each and
    no others. -/
theorem pipeline_correct (windows : config.exactWindow ≤ config.driftWindow)
    (drained : Drained config settings tr d) (tenantId : ℕ) :
    (findings d tenantId).Nodup ∧ ∀ f, f ∈ findings d tenantId ↔ Findings config (submitted tenantId tr) f :=
  ⟨drained.nodup_findings windows, fun _ => drained.mem_findings windows⟩

end Drained

/-! A payment posted twice and its ledger entry. The matcher marks the retry before it comes to the entry's
message, whose row it has already matched. -/

section
variable {config : MatchConfig} {settings : QueueSettings} {tr : List (Delivery × Event)} {d : Delivery}

/-- A computable check that an entry of the stream is acked. -/
def ackedNow (stream : EventStream Entry) (id : ℕ) : Bool :=
  stream.group.any fun g => decide (id < g.delivered) && decide (id ∉ g.pending.map Prod.fst)

/-- A computable check that an event is handled. -/
def throughNow (d : Delivery) (event : OutboxEvent) : Bool :=
  event.publishedAt.isSome &&
    (List.range d.stream.entries.length).all fun id =>
      !(d.stream.entries[id]?.any fun entry => entry.event == event.id) || ackedNow d.stream id

/-- A computable check of one event of a drained run that ends in `u`. -/
def drainedStep (u : Delivery) (p : Delivery × Event) : Bool :=
  (systemEvent p.1 p.2).all fun e => scheduled u.sys p.1.sys e

lemma not_waiting_of_throughNow {event : OutboxEvent} (through : throughNow d event = true) : ¬Waiting d event := by
  simp only [throughNow, Bool.and_eq_true, List.all_eq_true, List.mem_range] at through
  rintro (unpublished | ⟨id, entry, found, same, _, pending⟩)
  · rw [unpublished] at through
    cases through.1
  · obtain ⟨lt, _⟩ := List.getElem?_eq_some_iff.1 found
    have acked := through.2 id lt
    rw [found] at acked
    simp only [Option.any_some, same, beq_self_eq_true, Bool.not_true, Bool.false_or, ackedNow,
      Option.any_eq_true, Bool.and_eq_true, decide_eq_true_eq] at acked
    obtain ⟨g, group, delivered, settled⟩ := acked
    exact pending ⟨g, group, delivered, settled⟩

lemma Drained.of_checks (run : Run (Step config settings) Delivery.initial tr d)
    (events : tr.all (drainedStep d) = true)
    (tables : ([IngestSource.gateway, .ledger].all fun side => settledTable (d.sys.store.raw side)) = true)
    (through : d.sys.store.outboxEvents.all (throughNow d) = true) : Drained config settings tr d := by
  have event {p : Delivery × Event} (mem : p ∈ tr) {e : System.Event} (eq : p.2 = .database e) :
      scheduled d.sys p.1.sys e = true := by
    have check := List.all_eq_true.1 events p mem
    rwa [drainedStep, eq, systemEvent, Option.all_some] at check
  have table : ∀ side, settledTable (d.sys.store.raw side) = true := fun side =>
    List.all_eq_true.1 tables side (by cases side <;> simp)
  simp only [settledTable, List.all_eq_true, Bool.and_eq_true, Bool.or_eq_true,
    Bool.not_eq_eq_eq_not, Bool.not_true, Bool.and_eq_false_iff, beq_eq_false_iff_ne,
    decide_eq_true_eq] at table
  refine ⟨run, ?_, ?_, ?_, fun side row mem => (table side row mem).1, fun event mem =>
    not_waiting_of_throughNow (List.all_eq_true.1 through event mem)⟩
  · intro p mem accountId eq
    have check := event mem eq
    simp [scheduled] at check
  · intro side a memA b memB tenant txn
    rcases (table side a memA).2 b memB with (ne | ne) | eq
    · exact absurd tenant ne
    · exact absurd txn ne
    · exact eq
  · intro p mem w candidate rest eq sweeping row memRow tenant txn
    have check := event mem eq
    simp only [scheduled, sweeping, List.all_eq_true] at check
    simpa [tenant, txn] using check row memRow

end

namespace Sample
open System.Sample

def entryEvent : OutboxEvent :=
  Ingest.outboxRow .ledger (Ingest.Sample.drawsAfter 2) (Ingest.firstReceipt (ledgerRow 2 Ingest.Sample.entry)) 0

def drainedEvents : List Event :=
  [.database (.openAccount Ingest.Sample.account),
    .database (.ingest (.gateway 1 Ingest.Sample.payload "key-1" "null") (Ingest.Sample.drawsAfter 0)),
    .database (.ingest (.gateway 1 Ingest.Sample.payload "key-1" "null") (Ingest.Sample.drawsAfter 1)),
    .claim 0 [gatewayEvent, retryEvent], .publish 0, .publish 0, .mark 0, .commit 0 (.newYear 4),
    .database (.ingest (.ledger 1 [Ingest.Sample.entry]) (Ingest.Sample.drawsAfter 2)),
    .claim 0 [entryEvent], .publish 0, .mark 0, .commit 0 (.newYear 4),
    .ensureGroup, .skipClaim 0, .read 0,
    .load 0, .database (.find 0 [facts (ledgerRow 2 Ingest.Sample.entry) .ledger] (.newYear 5)),
    .database (.apply 0 (.newYear 5) (drawsAt 1)), .ack 0,
    .load 0, .database (.apply 0 (.newYear 5) (drawsAt 2)), .ack 0, .finish 0,
    .skipClaim 1, .read 1, .load 1, .database (.find 1 [] (.newYear 5)), .ack 1]

end Sample

theorem pipeline_correct_sample :
    ∃ tr d, replay (step .shipped Sample.settings) Delivery.initial Sample.drainedEvents = some (tr, d) ∧
      findings d 1 = [⟨some "key-1", some "key-1", .matched, .exact⟩,
        ⟨some "key-1", none, .duplicate, .duplicate⟩] ∧
      ∀ f, f ∈ findings d 1 ↔ Findings .shipped (submitted 1 tr) f := by
  have runs : ((replay (step .shipped Sample.settings) Delivery.initial Sample.drainedEvents).map fun p =>
      (p.1.all (drainedStep p.2), [IngestSource.gateway, .ledger].all fun side =>
        settledTable (p.2.sys.store.raw side), p.2.sys.store.outboxEvents.all (throughNow p.2), findings p.2 1)) =
      some (true, true, true, [⟨some "key-1", some "key-1", .matched, .exact⟩,
        ⟨some "key-1", none, .duplicate, .duplicate⟩]) := by decide +kernel
  obtain ⟨⟨tr, d⟩, eq, checks⟩ := Option.map_eq_some_iff.1 runs
  obtain ⟨events, rest⟩ := Prod.mk.inj checks
  obtain ⟨tables, rest⟩ := Prod.mk.inj rest
  obtain ⟨through, found⟩ := Prod.mk.inj rest
  have drained : Drained .shipped Sample.settings tr d :=
    .of_checks (.of_replay Step.of_step eq) events tables through
  exact ⟨tr, d, eq, found, (pipeline_correct (by decide) drained 1).2⟩

end Queue
end LedgerLoop
