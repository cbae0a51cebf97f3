import LedgerLoop.Isolation.Alone

/-!
# Reads and closings in isolation

The tenant's stats, pages and closings on the shared store are those on the store it has by itself. A
page is cut at an id: two cursors correspond when they cut the two numberings at the same row
(`SameCursor`), and a page's `next_cursor` corresponds to that of the other page.
-/

set_option autoImplicit false

namespace LedgerLoop
open LedgerLoop.Library

namespace Isolation
open Queries

/-- Two cursors are above the same rows. -/
def SameCursor (f : ℕ → ℕ) (cursor cursor' : Option ℤ) : Prop :=
  ∀ k : ℕ, (cursor.all fun c => ((f k : ℕ) : ℤ) < c) = cursor'.all fun c => (k : ℤ) < c

/-- Two exception ids name the same row, or no row, of the tenant. -/
def SameException (ρ : Renaming) (s' : Store) (id id' : ℕ) : Prop :=
  ∀ e ∈ s'.exceptions, ρ.exception e.id = id ↔ e.id = id'

section Stats
variable {ρ : Renaming} {A : ℕ} {s s' : Store} {rows : List ReconciliationResult}

/-- Stats do not read ids. -/
lemma statsOf_rename {openExceptions : ℕ} :
    statsOf (rows.map (ReconciliationResult.rename ρ)) openExceptions = statsOf rows openExceptions := by
  simp only [statsOf, List.countP_map, List.filter_map, List.filterMap_map]
  rfl

lemma Alone.getStats (alone : Alone ρ A s s') {window : WindowName} {now : Datetime} :
    getStats s A window now = getStats s' A window now := by
  have rows : (s.reconciliationResults.filter fun r => r.tenantId == A &&
        decide ((now.us - Timedelta.seconds window.seconds : ℤ) ≤ r.resolvedAt.us)) =
      (s'.reconciliationResults.filter fun r => r.tenantId == A &&
        decide ((now.us - Timedelta.seconds window.seconds : ℤ) ≤ r.resolvedAt.us)).map
          (ReconciliationResult.rename ρ) :=
    alone.results.filter (fun r _ sel => by simp_all [ownResult]) fun _ _ => rfl
  have exceptions : (s.exceptions.countP fun e => e.tenantId == A && e.closedAt.isNone) =
      s'.exceptions.countP fun e => e.tenantId == A && e.closedAt.isNone :=
    alone.exceptions.countP (fun e _ sel => by simp_all [ownException]) fun _ _ => rfl
  have row : fetchStats s A window now = fetchStats s' A window now := by
    rw [fetchStats, fetchStats, rows, statsOf_rename, exceptions]
  rw [Queries.getStats, Queries.getStats, row]

end Stats

section Pages
variable {ρ : Renaming} {A limit : ℕ} {s s' : Store} {r : ReconciliationResult} {e : Exception_}
  {side : IngestSource} {cursor cursor' : Option ℤ}

/-- A page of a renamed list is the renamed page. -/
lemma keysetPage_rename {α β : Type} {id : α → ℕ} {id' : β → ℕ} {g : β → α} {f : ℕ → ℕ}
    {rows : List β} (mono : StrictMono f) (ids : ∀ r, id (g r) = f (id' r))
    (same : SameCursor f cursor cursor') :
    keysetPage id (rows.map g) limit cursor =
      ((keysetPage id' rows limit cursor').1.map g, (keysetPage id' rows limit cursor').2.map f) := by
  obtain ⟨page, pageEq⟩ : ∃ page, page = (((rows.filter fun r => cursor'.all fun c => (id' r : ℤ) < c)
      |>.mergeSort fun a b => id' b ≤ id' a).take (limit + 1)) := ⟨_, rfl⟩
  have below : ((rows.map g).filter fun r => cursor.all fun c => (id r : ℤ) < c) =
      (rows.filter fun r => cursor'.all fun c => (id' r : ℤ) < c).map g := by
    rw [List.filter_map]
    refine congrArg (List.map g) (List.filter_congr fun r _ => ?_)
    simp only [Function.comp_apply, ids]
    exact same (id' r)
  have sorted (rows : List β) : (rows.map g).mergeSort (fun a b => id b ≤ id a) =
      (rows.mergeSort fun a b => id' b ≤ id' a).map g := by
    refine (List.map_mergeSort fun a _ b _ => ?_).symm
    simp only [ids, mono.le_iff_le]
  simp only [keysetPage, below, sorted, ← List.map_take, ← pageEq, List.length_map,
    List.getElem?_map, Option.map_map]
  split_ifs
  · refine congrArg _ ?_
    cases page[limit - 1]? with
    | none => rfl
    | some r => simp [ids]
  · rfl

/-- The raw rows joined to a result of the tenant. -/
lemma Alone.joined (alone : Alone ρ A s s') :
    joined s (r.rename ρ) side = (joined s' r side).map (RawRow.rename ρ side) := by
  rw [Queries.joined, Queries.joined, ReconciliationResult.rename_rawId]
  cases r.rawId side with
  | none => rfl
  | some id => exact alone.find?_row

lemma Alone.resultOut (alone : Alone ρ A s s') :
    resultOut s (r.rename ρ) = (resultOut s' r).rename ρ := by
  simp only [Queries.resultOut, alone.joined, ReconciliationResultOut.rename]
  cases Queries.joined s' r .gateway <;> cases Queries.joined s' r .ledger <;> rfl

lemma Alone.exceptionOut (alone : Alone ρ A s s') :
    exceptionOut s (e.rename ρ) (r.rename ρ) = (exceptionOut s' e r).rename ρ := by
  simp only [Queries.exceptionOut, alone.joined, ExceptionOut.rename]
  cases Queries.joined s' r .gateway <;> cases Queries.joined s' r .ledger <;> rfl

/-- The tenant's transactions. -/
lemma Alone.listTransactions (alone : Alone ρ A s s') {status : Option ReconStatus}
    (same : SameCursor ρ.result cursor cursor') :
    listTransactions s A status limit cursor =
      (listTransactions s' A status limit cursor').rename (ReconciliationResultOut.rename ρ)
        ρ.result := by
  have rows : (s.reconciliationResults.filter fun r =>
        r.tenantId == A && status.all (r.status == ·)) =
      (s'.reconciliationResults.filter fun r =>
        r.tenantId == A && status.all (r.status == ·)).map (ReconciliationResult.rename ρ) :=
    alone.results.filter (fun r _ sel => by simp_all [ownResult]) fun _ _ => rfl
  have page : fetchResultsPage s A status limit cursor =
      ((fetchResultsPage s' A status limit cursor').1.map (ReconciliationResult.rename ρ),
        (fetchResultsPage s' A status limit cursor').2.map ρ.result) := by
    rw [fetchResultsPage, rows]
    exact keysetPage_rename ρ.result_mono (fun _ => rfl) same
  simp only [Queries.listTransactions, Page.rename, page, List.map_map]
  refine congrArg₂ Page.mk (List.map_congr_left fun r _ => ?_) rfl
  exact alone.resultOut

/-- An exception of the tenant and its result. -/
lemma Alone.withResult (alone : Alone ρ A s s') :
    withResult s (e.rename ρ) =
      (withResult s' e).map fun item => (item.1.rename ρ, item.2.rename ρ) := by
  have found : (s.reconciliationResults.find? fun r => r.id == (e.rename ρ).reconciliationResultId) =
      _ := alone.find?_result
  rw [Queries.withResult, Queries.withResult, found, Option.map_map, Option.map_map]
  rfl

/-- A query on the tenant's exceptions, joined to their results. -/
lemma Alone.filterMap_withResult (alone : Alone ρ A s s') {p p' : Exception_ → Bool}
    (owned : ∀ e ∈ s.exceptions, p e = true → ownException A e = true)
    (agree : ∀ e ∈ s'.exceptions, p (e.rename ρ) = p' e) :
    (s.exceptions.filter p).filterMap (Queries.withResult s) =
      ((s'.exceptions.filter p').filterMap (Queries.withResult s')).map
        fun item => (item.1.rename ρ, item.2.rename ρ) := by
  rw [alone.exceptions.filter owned agree, List.filterMap_map, List.map_filterMap]
  exact List.filterMap_congr fun e _ => alone.withResult

/-- The tenant's exceptions. -/
lemma Alone.listExceptions (alone : Alone ρ A s s') {filter : Option ExceptionFilter}
    (same : SameCursor ρ.exception cursor cursor') :
    listExceptions s A filter limit cursor =
      (listExceptions s' A filter limit cursor').rename (ExceptionOut.rename ρ) ρ.exception := by
  have rows : (s.exceptions.filter fun e =>
        e.tenantId == A && ExceptionFilter.admits filter e).filterMap (Queries.withResult s) =
      ((s'.exceptions.filter fun e =>
        e.tenantId == A && ExceptionFilter.admits filter e).filterMap (Queries.withResult s')).map
          fun item => (item.1.rename ρ, item.2.rename ρ) :=
    alone.filterMap_withResult (fun e _ sel => by simp_all [ownException])
      fun e _ => by cases filter with | none => rfl | some f => cases f <;> rfl
  have page : fetchExceptionsPage s A filter limit cursor =
      ((fetchExceptionsPage s' A filter limit cursor').1.map
          fun item => (item.1.rename ρ, item.2.rename ρ),
        (fetchExceptionsPage s' A filter limit cursor').2.map ρ.exception) := by
    rw [fetchExceptionsPage, rows]
    exact keysetPage_rename ρ.exception_mono (fun _ => rfl) same
  simp only [Queries.listExceptions, Page.rename, page, List.map_map]
  refine congrArg₂ Page.mk (List.map_congr_left fun item _ => ?_) rfl
  exact alone.exceptionOut

end Pages

section Resolve
variable {ρ : Renaming} {A tenantId id id' : ℕ} {s s' t : Store} {notes : String} {now : Datetime}
  {closed : Option Exception_} {answer : ResolveAnswer}

/-- Replacing the exceptions on both sides. -/
lemma Alone.setExceptions (alone : Alone ρ A s s') {rows rows' : List Exception_}
    (slice : Slice (ownException A) (Exception_.rename ρ) rows rows')
    (refs : ∀ e ∈ rows, e.reconciliationResultId ∈ Set.range ρ.result → e.tenantId = A) :
    Alone ρ A { s with exceptions := rows } { s' with exceptions := rows' } :=
  have raw (u : Store) (es : List Exception_) (side : IngestSource) :
      ({ u with exceptions := es } : Store).raw side = u.raw side := by cases side <;> rfl
  ⟨alone.accounts, fun side => by rw [raw, raw]; exact alone.rows side, alone.results, slice,
    fun side => by rw [raw]; exact alone.rowIds side, alone.resultIds, refs⟩

/-- A closed exception belongs to the same tenant and result. -/
lemma refs_close
    (refs : ∀ e ∈ s.exceptions, e.reconciliationResultId ∈ Set.range ρ.result → e.tenantId = A)
    {p : Exception_ → Bool} :
    ∀ e ∈ updateWhere p (close now notes) s.exceptions,
      e.reconciliationResultId ∈ Set.range ρ.result → e.tenantId = A := by
  intro e mem range
  rcases mem_updateWhere.1 mem with ⟨e0, mem0, _, rfl⟩ | ⟨mem0, _⟩
  · exact refs e0 mem0 range
  · exact refs e mem0 range

lemma SameException.isOpen (same : SameException ρ s' id id') :
    ∀ e ∈ s'.exceptions, isOpen A id (e.rename ρ) = isOpen A id' e := by
  intro e mem
  have ids : (ρ.exception e.id == id) = (e.id == id') := by
    rw [Bool.eq_iff_iff, beq_iff_eq, beq_iff_eq]
    exact same e mem
  simp only [Queries.isOpen, Exception_.rename, ids]

/-- Closing an exception of the tenant. -/
lemma Alone.closeException (alone : Alone ρ A s s') (same : SameException ρ s' id id')
    (ok : closeException s A id notes now = .ok (t, closed)) :
    ∃ t' closed', closeException s' A id' notes now = .ok (t', closed') ∧
      closed = closed'.map (Exception_.rename ρ) ∧ Alone ρ A t t' ∧ SameException ρ t' id id' := by
  have targets : s.exceptions.filter (isOpen A id) =
      (s'.exceptions.filter (isOpen A id')).map (Exception_.rename ρ) :=
    alone.exceptions.filter (fun e _ sel => by simp_all [Queries.isOpen, ownException]) same.isOpen
  have late : ((s'.exceptions.filter (isOpen A id')).map (Exception_.rename ρ)).any
      (fun e => now < e.openedAt) = (s'.exceptions.filter (isOpen A id')).any
        fun e => now < e.openedAt := List.any_map
  simp only [Queries.closeException, targets, late] at ok ⊢
  split_ifs at ok ⊢
  obtain ⟨rfl, rfl⟩ := Prod.mk.inj (Except.ok.inj ok)
  refine ⟨_, _, rfl, ?_, alone.setExceptions ?_ (refs_close alone.exceptionResults), ?_⟩
  · rw [List.head?_map, List.head?_map, List.head?_map, Option.map_map, Option.map_map]
    rfl
  · exact alone.exceptions.update (fun _ => rfl) same.isOpen fun _ => rfl
  · intro e mem
    rcases mem_updateWhere.1 mem with ⟨e0, mem0, _, rfl⟩ | ⟨mem0, _⟩
    · exact same e0 mem0
    · exact same e mem0

/-- Reading one exception of the tenant. -/
lemma Alone.fetchException (alone : Alone ρ A s s') (same : SameException ρ s' id id') :
    fetchException s A id =
      (fetchException s' A id').map fun item => (item.1.rename ρ, item.2.rename ρ) := by
  have named : ∀ e ∈ s'.exceptions,
      ((e.rename ρ).tenantId == A && (e.rename ρ).id == id) = (e.tenantId == A && e.id == id') := by
    intro e mem
    have ids : (ρ.exception e.id == id) = (e.id == id') := by
      rw [Bool.eq_iff_iff, beq_iff_eq, beq_iff_eq]
      exact same e mem
    simp only [Exception_.rename, ids]
  have rows : (s.exceptions.filter fun e => e.tenantId == A && e.id == id).filterMap
        (Queries.withResult s) =
      ((s'.exceptions.filter fun e => e.tenantId == A && e.id == id').filterMap
        (Queries.withResult s')).map fun item => (item.1.rename ρ, item.2.rename ρ) :=
    alone.filterMap_withResult (fun e _ sel => by simp_all [ownException]) named
  rw [Queries.fetchException, Queries.fetchException, rows, List.head?_map]

/-- Resolving an exception of the tenant. -/
lemma Alone.resolveException (alone : Alone ρ A s s') (same : SameException ρ s' id id')
    (ok : resolveException s A id notes now = .ok (t, answer)) :
    ∃ t' answer', resolveException s' A id' notes now = .ok (t', answer') ∧
      answer = answer'.rename ρ ∧ Alone ρ A t t' := by
  simp only [Queries.resolveException, bind, Except.bind] at ok ⊢
  split at ok
  · cases ok
  rename_i result eq
  obtain ⟨t', closed', ok', closedEq, alone', same'⟩ := alone.closeException same eq
  have found := alone'.fetchException same'
  simp only [ok', closedEq, found] at ok ⊢
  cases closed' with
  | none =>
    cases fetched : Queries.fetchException t' A id' with
    | none =>
      simp only [fetched, Option.map_none] at ok ⊢
      obtain ⟨rfl, rfl⟩ := Prod.mk.inj (Except.ok.inj ok)
      exact ⟨t', _, rfl, rfl, alone'⟩
    | some item =>
      simp only [fetched, Option.map_none, Option.map_some] at ok ⊢
      obtain ⟨rfl, rfl⟩ := Prod.mk.inj (Except.ok.inj ok)
      exact ⟨t', _, rfl, rfl, alone'⟩
  | some e =>
    cases fetched : Queries.fetchException t' A id' with
    | none => simp [fetched] at ok
    | some item =>
      simp only [fetched, Option.map_some] at ok ⊢
      obtain ⟨rfl, rfl⟩ := Prod.mk.inj (Except.ok.inj ok)
      exact ⟨t', _, rfl, congrArg ResolveAnswer.ok alone'.exceptionOut, alone'⟩

/-- Resolving an exception for another tenant. -/
lemma Alone.resolveException_foreign (alone : Alone ρ A s s') (foreign : tenantId ≠ A)
    (ok : Queries.resolveException s tenantId id notes now = .ok (t, answer)) : Alone ρ A t s' := by
  simp only [Queries.resolveException, bind, Except.bind] at ok
  split at ok
  · cases ok
  rename_i result eq
  have store : t = result.1 := by
    split at ok
    · exact (Prod.mk.inj (Except.ok.inj ok)).1.symm
    · exact (Prod.mk.inj (Except.ok.inj ok)).1.symm
    · exact (Prod.mk.inj (Except.ok.inj ok)).1.symm
    · cases ok
  subst store
  simp only [Queries.closeException] at eq
  split_ifs at eq
  obtain rfl := Except.ok.inj eq
  have slice : Slice (ownException A) (Exception_.rename ρ)
      (updateWhere (isOpen tenantId id) (close now notes) s.exceptions) s'.exceptions := by
    refine alone.exceptions.update_foreign (fun _ => rfl) fun e _ sel => ?_
    have tenant : e.tenantId = tenantId := by simp_all [Queries.isOpen]
    simp [ownException, tenant, foreign]
  exact alone.setExceptions slice (refs_close alone.exceptionResults)

/-- Whatever id a client sends, there is one that names the same of its exceptions. -/
lemma exists_sameException (ρ : Renaming) (s' : Store) (id : ℕ) :
    ∃ id', SameException ρ s' id id' := by
  by_cases named : ∃ e ∈ s'.exceptions, ρ.exception e.id = id
  · obtain ⟨e, _, rfl⟩ := named
    exact ⟨e.id, fun e' _ => ρ.exception_mono.injective.eq_iff⟩
  · obtain ⟨fresh, unused⟩ := Infinite.exists_notMem_finset
      (s'.exceptions.map Exception_.id).toFinset
    refine ⟨fresh, fun e mem => ⟨fun eq => absurd ⟨e, mem, eq⟩ named, fun eq => ?_⟩⟩
    exact absurd (List.mem_toFinset.2 (List.mem_map.2 ⟨e, mem, eq⟩)) unused

/-- Whatever cursor a client sends, there is one above the same rows. -/
lemma exists_sameCursor {f : ℕ → ℕ} (mono : StrictMono f) (cursor : Option ℤ) :
    ∃ cursor', SameCursor f cursor cursor' := by
  cases cursor with
  | none => exact ⟨none, fun _ => rfl⟩
  | some c =>
    obtain ⟨n, cut⟩ := exists_cut mono c.toNat
    refine ⟨some n, fun k => ?_⟩
    have here := cut k
    simp only [Option.all_some, decide_eq_decide]
    omega

end Resolve

end Isolation
end LedgerLoop
