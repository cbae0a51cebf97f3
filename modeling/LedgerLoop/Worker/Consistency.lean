import LedgerLoop.Worker.System

/-!
# The store invariant

`Consistent` is what the tables satisfy in every reachable state: references lead to rows of the same
tenant, every raw row has at most one active result and at most one duplicate marker, it is marked
reconciled iff it has an active result, both sides of a pair agree, and a result has its exception iff
its status opens one.

Each section shows that one kind of transaction keeps it.
-/

set_option autoImplicit false

namespace LedgerLoop
open LedgerLoop.Library

/-- The invariant of the committed tables. -/
structure Consistent (s : Store) : Prop where
  rawIds : ∀ side, ((s.raw side).map RawRow.id).Nodup
  resultIds : (s.reconciliationResults.map ReconciliationResult.id).Nodup
  exceptionResults : (s.exceptions.map Exception_.reconciliationResultId).Nodup
  references : ∀ r ∈ s.reconciliationResults, ∀ side id, r.rawId side = some id →
    ∃ row ∈ s.raw side, row.id = id ∧ row.tenantId = r.tenantId
  unique : ∀ active side, UniqueOn (fun r : ReconciliationResult => r.active = active)
    (fun r => r.rawId side) s.reconciliationResults
  pair : ∀ r ∈ s.reconciliationResults, ∀ g ∈ s.raw .gateway, ∀ l ∈ s.raw .ledger,
    r.gatewayTxnId = some g.id → r.ledgerEntryId = some l.id →
      g.txnId = l.txnId ∧ g.currency = l.currency
  marked : ∀ side, ∀ row ∈ s.raw side, row.pending = false ↔
    ∃ r ∈ s.reconciliationResults, r.active = true ∧ r.rawId side = some row.id
  opened : ∀ r ∈ s.reconciliationResults, r.status.opensException = true ↔
    ∃ e ∈ s.exceptions, e.reconciliationResultId = r.id
  exceptionOf : ∀ e ∈ s.exceptions, ∃ r ∈ s.reconciliationResults,
    r.id = e.reconciliationResultId ∧ r.tenantId = e.tenantId

/-- The empty database is consistent. -/
lemma Consistent.empty : Consistent {} where
  rawIds := by rintro (_ | _) <;> exact List.nodup_nil
  resultIds := List.nodup_nil
  exceptionResults := List.nodup_nil
  references := by rintro r ⟨⟩
  unique := by rintro _ _ r ⟨⟩
  pair := by rintro r ⟨⟩
  marked := by rintro (_ | _) row ⟨⟩
  opened := by rintro r ⟨⟩
  exceptionOf := by rintro e ⟨⟩

/-- `Consistent` reads the raw tables, the results and the exceptions only. -/
lemma Consistent.congr {s s' : Store} (c : Consistent s) (raw : ∀ side, s'.raw side = s.raw side)
    (results : s'.reconciliationResults = s.reconciliationResults)
    (exceptions : s'.exceptions = s.exceptions) : Consistent s' where
  rawIds side := by rw [raw]; exact c.rawIds side
  resultIds := by rw [results]; exact c.resultIds
  exceptionResults := by rw [exceptions]; exact c.exceptionResults
  references := by simpa only [results, raw] using c.references
  unique := by simpa only [results] using c.unique
  pair := by simpa only [results, raw] using c.pair
  marked := by simpa only [results, raw] using c.marked
  opened := by simpa only [results, exceptions] using c.opened
  exceptionOf := by simpa only [results, exceptions] using c.exceptionOf

namespace Ingest
variable {s s' : Store} {side t : IngestSource} {ids : List ℕ} {row r0 : RawRow}

/-- After a call, a row is an old row up to its count, or a new pending one. -/
lemma Effect.of_mem (eff : Effect s s' side ids) (mem : row ∈ s'.raw t) :
    (∃ r0 ∈ s.raw t, r0.eraseCount = row.eraseCount) ∨
      (t = side ∧ row.id ∈ ids ∧ row.pending = true) := by
  by_cases eq : t = side
  · subst eq
    obtain ⟨new, pending, sub, same⟩ := eff.rows
    obtain ⟨r0, mem0, erased⟩ := List.mem_map.1 (same ▸ List.mem_map_of_mem mem)
    rcases List.mem_append.1 mem0 with old | fresh
    · exact .inl ⟨r0, old, erased⟩
    · refine .inr ⟨rfl, ?_, RawRow.pending_of_eraseCount erased ▸ pending r0 fresh⟩
      exact RawRow.id_of_eraseCount erased ▸ sub.subset (List.mem_map_of_mem fresh)
  · obtain rfl : t = side.other := IngestSource.eq_other_of_ne (Ne.symm eq)
    exact .inl ⟨row, eff.other ▸ mem, rfl⟩

/-- Every old row is still there, up to its count. -/
lemma Effect.back (eff : Effect s s' side ids) (mem : r0 ∈ s.raw t) :
    ∃ row ∈ s'.raw t, row.eraseCount = r0.eraseCount := by
  by_cases eq : t = side
  · subst eq
    obtain ⟨new, _, _, same⟩ := eff.rows
    have listed : r0.eraseCount ∈ (s'.raw t).map RawRow.eraseCount :=
      same ▸ List.mem_map_of_mem (List.mem_append_left new mem)
    obtain ⟨row, memRow, erased⟩ := List.mem_map.1 listed
    exact ⟨row, memRow, erased⟩
  · obtain rfl : t = side.other := IngestSource.eq_other_of_ne (Ne.symm eq)
    exact ⟨r0, eff.other.symm ▸ mem, rfl⟩

/-- Drawn ids that are distinct and new keep the primary key. -/
lemma Effect.nodup (eff : Effect s s' side ids) (nodup : ids.Nodup)
    (new : ∀ row ∈ s.raw side, row.id ∉ ids) (old : ∀ t, ((s.raw t).map RawRow.id).Nodup) :
    ((s'.raw t).map RawRow.id).Nodup := by
  by_cases eq : t = side
  · subst eq
    obtain ⟨rows, _, sub, same⟩ := eff.rows
    have ids_eq : (s'.raw t).map RawRow.id = (s.raw t ++ rows).map RawRow.id := by
      have := congrArg (List.map RawRow.id) same
      rwa [List.map_map, List.map_map] at this
    rw [ids_eq, List.map_append]
    refine (old t).append (sub.nodup nodup) fun id memOld memNew => ?_
    obtain ⟨row, memRow, rfl⟩ := List.mem_map.1 memOld
    exact new row memRow (sub.subset memNew)
  · obtain rfl : t = side.other := IngestSource.eq_other_of_ne (Ne.symm eq)
    exact eff.other.symm ▸ old _

end Ingest

namespace Consistent
variable {s s' : Store}

/-- Ingestion keeps the invariant. -/
lemma ingest {side : IngestSource} {ids : List ℕ} (c : Consistent s)
    (eff : Ingest.Effect s s' side ids) (nodup : ids.Nodup)
    (new : ∀ row ∈ s.raw side, row.id ∉ ids) : Consistent s' where
  rawIds t := eff.nodup nodup new c.rawIds
  resultIds := by rw [eff.results]; exact c.resultIds
  exceptionResults := by rw [eff.exceptions]; exact c.exceptionResults
  references := by
    intro r memR t id ref
    rw [eff.results] at memR
    obtain ⟨r0, mem0, rfl, tenant⟩ := c.references r memR t id ref
    obtain ⟨row, mem, erased⟩ := eff.back mem0
    exact ⟨row, mem, RawRow.id_of_eraseCount erased,
      (RawRow.tenantId_of_eraseCount erased).trans tenant⟩
  unique := by rw [eff.results]; exact c.unique
  pair := by
    intro r memR g memG l memL refG refL
    rw [eff.results] at memR
    -- a referenced row is an old one
    have old {t : IngestSource} {row : RawRow} (mem : row ∈ s'.raw t)
        (ref : r.rawId t = some row.id) : ∃ r0 ∈ s.raw t, r0.eraseCount = row.eraseCount := by
      rcases eff.of_mem mem with found | ⟨rfl, drawn, _⟩
      · exact found
      · obtain ⟨r0, mem0, idEq, _⟩ := c.references r memR t row.id ref
        exact absurd (idEq ▸ drawn) (new r0 mem0)
    obtain ⟨g0, memG0, erasedG⟩ := old memG refG
    obtain ⟨l0, memL0, erasedL⟩ := old memL refL
    have identity (r : RawRow) : r.eraseCount.txnId = r.txnId ∧ r.eraseCount.currency = r.currency :=
      ⟨rfl, rfl⟩
    obtain ⟨txn, currency⟩ := c.pair r memR g0 memG0 l0 memL0
      (RawRow.id_of_eraseCount erasedG ▸ refG) (RawRow.id_of_eraseCount erasedL ▸ refL)
    rw [← (identity g0).1, ← (identity l0).1, erasedG, erasedL] at txn
    rw [← (identity g0).2, ← (identity l0).2, erasedG, erasedL] at currency
    exact ⟨txn, currency⟩
  marked := by
    intro t row mem
    rw [eff.results]
    rcases eff.of_mem mem with ⟨r0, mem0, erased⟩ | ⟨rfl, drawn, pending⟩
    · rw [← RawRow.pending_of_eraseCount erased, ← RawRow.id_of_eraseCount erased]
      exact c.marked t r0 mem0
    · simp only [pending, Bool.true_eq_false, false_iff, not_exists, not_and]
      intro r memR _ ref
      obtain ⟨r0, mem0, idEq, _⟩ := c.references r memR t row.id ref
      exact new r0 mem0 (idEq ▸ drawn)
  opened := by simpa only [eff.results, eff.exceptions] using c.opened
  exceptionOf := by simpa only [eff.results, eff.exceptions] using c.exceptionOf

/-- Deleting an account with everything it owns keeps the invariant. -/
lemma deleteAccount (c : Consistent s) (accountId : ℕ) :
    Consistent (Sweeper.deleteAccount s accountId) where
  rawIds side := by
    rw [Sweeper.raw_deleteAccount]
    exact nodup_map_deleteWhere (c.rawIds side)
  resultIds := nodup_map_deleteWhere c.resultIds
  exceptionResults := nodup_map_deleteWhere c.exceptionResults
  references := by
    intro r memR side id ref
    obtain ⟨memR, other⟩ := mem_deleteWhere.1 memR
    obtain ⟨row, mem, idEq, tenant⟩ := c.references r memR side id ref
    refine ⟨row, ?_, idEq, tenant⟩
    rw [Sweeper.raw_deleteAccount, mem_deleteWhere, tenant]
    exact ⟨mem, other⟩
  unique active side := (c.unique active side).sublist fun r mem => (mem_deleteWhere.1 mem).1
  pair := by
    intro r memR g memG l memL
    rw [Sweeper.raw_deleteAccount] at memG memL
    exact c.pair r (mem_deleteWhere.1 memR).1 g (mem_deleteWhere.1 memG).1 l
      (mem_deleteWhere.1 memL).1
  marked := by
    intro side row mem
    rw [Sweeper.raw_deleteAccount, mem_deleteWhere] at mem
    rw [c.marked side row mem.1]
    constructor
    · rintro ⟨r, memR, active, ref⟩
      -- the result belongs to the row's tenant, which stays
      obtain ⟨row', mem', idEq, tenant⟩ := c.references r memR side row.id ref
      obtain rfl := eq_of_key (c.rawIds side) mem' mem.1 idEq
      exact ⟨r, mem_deleteWhere.2 ⟨memR, by rw [← tenant]; exact mem.2⟩, active, ref⟩
    · rintro ⟨r, memR, active, ref⟩
      exact ⟨r, (mem_deleteWhere.1 memR).1, active, ref⟩
  opened := by
    intro r memR
    obtain ⟨memR, other⟩ := mem_deleteWhere.1 memR
    rw [c.opened r memR]
    constructor
    · rintro ⟨e, memE, ref⟩
      obtain ⟨r', memR', idEq, tenant⟩ := c.exceptionOf e memE
      obtain rfl := eq_of_key c.resultIds memR' memR (idEq.trans ref)
      exact ⟨e, mem_deleteWhere.2 ⟨memE, by rw [← tenant]; exact other⟩, ref⟩
    · rintro ⟨e, memE, ref⟩
      exact ⟨e, (mem_deleteWhere.1 memE).1, ref⟩
  exceptionOf := by
    intro e memE
    obtain ⟨memE, other⟩ := mem_deleteWhere.1 memE
    obtain ⟨r, memR, idEq, tenant⟩ := c.exceptionOf e memE
    exact ⟨r, mem_deleteWhere.2 ⟨memR, by rw [tenant]; exact other⟩, idEq, tenant⟩

/-- Closing an exception keeps the invariant. -/
lemma closeException {tenantId exceptionId : ℕ} {notes : String} {now : Datetime}
    {closed : Option Exception_} (c : Consistent s)
    (ok : Queries.closeException s tenantId exceptionId notes now = .ok (s', closed)) :
    Consistent s' := by
  simp only [Queries.closeException] at ok
  split_ifs at ok
  obtain ⟨rfl, _⟩ := Prod.mk.inj (Except.ok.inj ok)
  -- the update keeps the columns that link an exception to its result
  have column {β : Type} (g : Exception_ → β) (keep : ∀ e, g (Queries.close now notes e) = g e) :
      (updateWhere (Queries.isOpen tenantId exceptionId) (Queries.close now notes)
        s.exceptions).map g = s.exceptions.map g :=
    map_updateWhere _ keep
  have links := column (fun e => (e.reconciliationResultId, e.tenantId)) fun _ => rfl
  have link_iff (n t : ℕ) : (∃ e ∈ updateWhere (Queries.isOpen tenantId exceptionId)
      (Queries.close now notes) s.exceptions, e.reconciliationResultId = n ∧ e.tenantId = t) ↔
        ∃ e ∈ s.exceptions, e.reconciliationResultId = n ∧ e.tenantId = t := by
    have := congrArg ((n, t) ∈ ·) links
    simpa only [List.mem_map, Prod.mk.injEq, eq_iff_iff] using this
  exact
    { rawIds := c.rawIds
      resultIds := c.resultIds
      exceptionResults := by
        rw [column Exception_.reconciliationResultId fun _ => rfl]
        exact c.exceptionResults
      references := c.references
      unique := c.unique
      pair := c.pair
      marked := c.marked
      opened := by
        intro r memR
        rw [c.opened r memR]
        constructor
        · rintro ⟨e, memE, ref⟩
          obtain ⟨e', memE', ref', _⟩ := (link_iff r.id e.tenantId).2 ⟨e, memE, ref, rfl⟩
          exact ⟨e', memE', ref'⟩
        · rintro ⟨e, memE, ref⟩
          obtain ⟨e', memE', ref', _⟩ := (link_iff r.id e.tenantId).1 ⟨e, memE, ref, rfl⟩
          exact ⟨e', memE', ref'⟩
      exceptionOf := by
        intro e memE
        obtain ⟨e', memE', ref, tenant⟩ := (link_iff _ _).1 ⟨e, memE, rfl, rfl⟩
        obtain ⟨r, memR, idEq, tenant'⟩ := c.exceptionOf e' memE'
        exact ⟨r, memR, idEq.trans ref, tenant'.trans tenant⟩ }

section Settle
open Persist
variable {d : Decision} {r : ReconciliationResult} {draws : Draws} {side : IngestSource} {row : RawRow}

/-- A row after a decision is a row before it, reconciled iff it was or the decision consumes it. -/
lemma of_mem_settle (mem : row ∈ (Persist.settle s d r draws).1.raw side) :
    ∃ r0 ∈ s.raw side, row = { r0 with reconciledAt := row.reconciledAt } ∧
      (row.pending = false ↔
        r0.pending = false ∨ (d.status ≠ .duplicate ∧ d.rowId side = some r0.id)) := by
  rw [settle_raw] at mem
  split_ifs at mem with duplicate
  · exact ⟨row, mem, rfl, by simp [duplicate]⟩
  cases consumed : d.rowId side with
  | none =>
    rw [consumed] at mem
    exact ⟨row, mem, rfl, by simp⟩
  | some id =>
    rw [consumed] at mem
    rcases mem_markRows.1 mem with ⟨r0, mem0, ⟨idEq, _⟩, eq⟩ | ⟨mem0, kept⟩
    · refine ⟨r0, mem0, by rw [eq], ?_⟩
      simp [eq, RawRow.pending, duplicate, idEq]
    · refine ⟨row, mem0, rfl, ?_⟩
      simp only [ne_eq, duplicate, not_false_eq_true, Option.some.injEq, true_and]
      constructor
      · exact .inl
      · rintro (done | rfl)
        · exact done
        · simpa using kept

/-- Every row is still there after a decision. -/
lemma back_settle {r0 : RawRow} (mem : r0 ∈ s.raw side) :
    ∃ row ∈ (Persist.settle s d r draws).1.raw side,
      row = { r0 with reconciledAt := row.reconciledAt } := by
  let erase (row : RawRow) : RawRow := { row with reconciledAt := none }
  have same : ((Persist.settle s d r draws).1.raw side).map erase = (s.raw side).map erase := by
    rw [settle_raw]
    split_ifs
    · rfl
    · exact map_markRows fun _ => rfl
  obtain ⟨row, memRow, eq⟩ := List.mem_map.1 (same ▸ List.mem_map_of_mem mem)
  refine ⟨row, memRow, ?_⟩
  cases row
  cases r0
  simp_all [erase]

/-- A row of the tenant that an active result could be written for is pending. -/
lemma pending_of_free (c : Consistent s) (free : conflicts s r = false) (active : r.active = true)
    (mem : row ∈ s.raw side) (ref : r.rawId side = some row.id) (tenant : row.tenantId = r.tenantId) :
    row.pending = true := by
  by_contra decided
  obtain ⟨r', memR, active', ref'⟩ := (c.marked side row mem).1 (by simpa using decided)
  obtain ⟨row', mem', idEq, tenant'⟩ := c.references r' memR side row.id ref'
  obtain rfl := eq_of_key (c.rawIds side) mem' mem idEq
  have held := conflicts_iff.2 ⟨r', memR, tenant'.symm.trans tenant, active'.trans active.symm, side,
    row'.id, ref, ref'⟩
  simp [held] at free

/-- Writing a decision keeps the invariant, provided it references rows of its tenant, its two rows
    agree, and no index holds it. -/
lemma settle (c : Consistent s) (sides : ∀ side, r.rawId side = d.rowId side)
    (status : r.status = d.status) (fresh : ∀ r' ∈ s.reconciliationResults, r'.id ≠ r.id)
    (free : conflicts s r = false)
    (refs : ∀ side id, r.rawId side = some id →
      ∃ row ∈ s.raw side, row.id = id ∧ row.tenantId = r.tenantId)
    (agree : ∀ g ∈ s.raw .gateway, ∀ l ∈ s.raw .ledger, r.gatewayTxnId = some g.id →
      r.ledgerEntryId = some l.id → g.txnId = l.txnId ∧ g.currency = l.currency) :
    Consistent (Persist.settle s d r draws).1 := by
  have unopened : ∀ e ∈ s.exceptions, e.reconciliationResultId ≠ r.id := by
    intro e memE ref
    obtain ⟨r', memR, idEq, _⟩ := c.exceptionOf e memE
    exact fresh r' memR (idEq.trans ref)
  have exceptions := settle_exceptions s d r draws unopened
  have kept {side : IngestSource} {r0 : RawRow} (mem : r0 ∈ s.raw side) :
      ∃ row ∈ (Persist.settle s d r draws).1.raw side, row.id = r0.id ∧
        row.tenantId = r0.tenantId := by
    obtain ⟨row, memRow, eq⟩ : ∃ row ∈ (Persist.settle s d r draws).1.raw side,
        row = { r0 with reconciledAt := row.reconciledAt } := back_settle mem
    exact ⟨row, memRow, by rw [eq], by rw [eq]⟩
  have active : r.active = true ↔ d.status ≠ .duplicate := by
    simp [ReconciliationResult.active, status]
  have opens : d.opensException = r.status.opensException := by
    rw [Decision.opensException, status]
  exact
    { rawIds := by
        intro side
        rw [settle_raw]
        split_ifs
        · exact c.rawIds side
        · rw [map_markRows fun _ => rfl]
          exact c.rawIds side
      resultIds := by
        rw [settle_results]
        exact nodup_map_concat c.resultIds fresh
      exceptionResults := by
        rw [exceptions]
        split_ifs
        · exact nodup_map_concat c.exceptionResults unopened
        · simpa using c.exceptionResults
      references := by
        intro r' memR side id ref
        rw [settle_results] at memR
        have before : ∃ row ∈ s.raw side, row.id = id ∧ row.tenantId = r'.tenantId := by
          rcases List.mem_append.1 memR with old | new
          · exact c.references r' old side id ref
          · obtain rfl := List.mem_singleton.1 new
            exact refs side id ref
        obtain ⟨r0, mem0, idEq, tenant⟩ := before
        obtain ⟨row, mem, idEq', tenant'⟩ := kept mem0
        exact ⟨row, mem, idEq'.trans idEq, tenant'.trans tenant⟩
      unique := by
        intro kind side
        rw [settle_results]
        refine (c.unique kind side).concat fun ofKind id ref r' memR ofKind' ref' => ?_
        -- a result of the same kind on the same row has the same tenant, so an index held it
        obtain ⟨row, mem, idEq, tenant⟩ := refs side id ref
        obtain ⟨row', mem', idEq', tenant'⟩ := c.references r' memR side id ref'
        obtain rfl := eq_of_key (c.rawIds side) mem' mem (idEq'.trans idEq.symm)
        have held := conflicts_iff.2 ⟨r', memR, tenant'.symm.trans tenant,
          ofKind'.trans ofKind.symm, side, id, ref, ref'⟩
        simp [held] at free
      pair := by
        intro r' memR g memG l memL refG refL
        rw [settle_results] at memR
        obtain ⟨g0, memG0, eqG, _⟩ := of_mem_settle memG
        obtain ⟨l0, memL0, eqL, _⟩ := of_mem_settle memL
        rw [eqG] at refG ⊢
        rw [eqL] at refL ⊢
        rcases List.mem_append.1 memR with old | new
        · exact c.pair r' old g0 memG0 l0 memL0 refG refL
        · obtain rfl := List.mem_singleton.1 new
          exact agree g0 memG0 l0 memL0 refG refL
      marked := by
        intro side row mem
        obtain ⟨r0, mem0, eq, done⟩ := of_mem_settle mem
        have idEq : row.id = r0.id := by rw [eq]
        rw [done, c.marked side r0 mem0, settle_results, idEq, ← sides, ← active]
        constructor
        · rintro (⟨r', memR, act, ref⟩ | ⟨act, ref⟩)
          · exact ⟨r', List.mem_append_left _ memR, act, ref⟩
          · exact ⟨r, by simp, act, ref⟩
        · rintro ⟨r', memR, act, ref⟩
          rcases List.mem_append.1 memR with old | new
          · exact .inl ⟨r', old, act, ref⟩
          · obtain rfl := List.mem_singleton.1 new
            exact .inr ⟨act, ref⟩
      opened := by
        intro r' memR
        rw [settle_results] at memR
        rw [exceptions, opens]
        rcases List.mem_append.1 memR with old | new
        · rw [c.opened r' old]
          have ne := fresh r' old
          split_ifs <;> simp [exceptionRow, ne.symm]
        · obtain rfl := List.mem_singleton.1 new
          cases h : r'.status.opensException
          · simpa using unopened
          · simp [exceptionRow]
      exceptionOf := by
        intro e memE
        rw [exceptions] at memE
        rw [settle_results]
        rcases List.mem_append.1 memE with old | new
        · obtain ⟨r', memR, idEq, tenant⟩ := c.exceptionOf e old
          exact ⟨r', List.mem_append_left _ memR, idEq, tenant⟩
        · split_ifs at new
          · obtain rfl := List.mem_singleton.1 new
            exact ⟨r, by simp, rfl, rfl⟩
          · cases new }

end Settle

end Consistent
end LedgerLoop
