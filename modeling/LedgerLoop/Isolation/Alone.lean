import LedgerLoop.Isolation.Commands

/-!
# A tenant by itself

`Alone ρ A s s'` relates a store `s` to the store `s'` that tenant `A` would have by itself: the
tenant's rows, results and exceptions in `s` are those of `s'` under the renaming `ρ`, and no id in the
range of `ρ` is another tenant's. A lookup by an id of the range therefore finds a row of the tenant, on
both sides the same one.
-/

set_option autoImplicit false

namespace LedgerLoop
open LedgerLoop.Library

namespace Isolation
open Persist

/-- Whether a row is the tenant's. -/
def ownRow (A : ℕ) (row : RawRow) : Bool := row.tenantId == A

def ownResult (A : ℕ) (r : ReconciliationResult) : Bool := r.tenantId == A

def ownException (A : ℕ) (e : Exception_) : Bool := e.tenantId == A

/-- `s'` is the store of `A` by itself, up to `ρ`. -/
structure Alone (ρ : Renaming) (A : ℕ) (s s' : Store) : Prop where
  accounts : s.accounts = s'.accounts
  rows : ∀ side, Slice (ownRow A) (RawRow.rename ρ side) (s.raw side) (s'.raw side)
  results : Slice (ownResult A) (ReconciliationResult.rename ρ) s.reconciliationResults
    s'.reconciliationResults
  exceptions : Slice (ownException A) (Exception_.rename ρ) s.exceptions s'.exceptions
  rowIds : ∀ side, ∀ row ∈ s.raw side, row.id ∈ Set.range (ρ.row side) → row.tenantId = A
  resultIds : ∀ r ∈ s.reconciliationResults, r.id ∈ Set.range ρ.result → r.tenantId = A
  exceptionResults : ∀ e ∈ s.exceptions, e.reconciliationResultId ∈ Set.range ρ.result →
    e.tenantId = A

namespace Alone
variable {ρ : Renaming} {A : ℕ} {s s' : Store} {side : IngestSource} {row : RawRow}

/-- With nothing stored, every tenant is by itself. -/
lemma initial {accounts : List Account} : Alone ρ A { accounts := accounts } { accounts := accounts } where
  accounts := rfl
  rows side := by cases side <;> exact .nil
  results := .nil
  exceptions := .nil
  rowIds side row mem := by cases side <;> cases mem
  resultIds r mem := by cases mem
  exceptionResults e mem := by cases mem

lemma tenant_of_row (alone : Alone ρ A s s') (mem : row ∈ s'.raw side) : row.tenantId = A := by
  have own := ((alone.rows side).mem mem).2
  simpa [ownRow] using own

/-- An id of the renaming leads to the same row on both sides. -/
lemma find?_row (alone : Alone ρ A s s') {id : ℕ} :
    ((s.raw side).find? fun r => r.id == ρ.row side id) =
      ((s'.raw side).find? fun r => r.id == id).map (RawRow.rename ρ side) := by
  refine (alone.rows side).find? (fun r mem sel => ?_) fun r' _ => ?_
  · have own := alone.rowIds side r mem ⟨id, (beq_iff_eq.1 sel).symm⟩
    simpa [ownRow] using own
  · rw [Bool.eq_iff_iff, beq_iff_eq, beq_iff_eq]
    exact (ρ.row_mono side).injective.eq_iff

/-- An id of the renaming leads to the same result on both sides. -/
lemma find?_result (alone : Alone ρ A s s') {id : ℕ} :
    (s.reconciliationResults.find? fun r => r.id == ρ.result id) =
      (s'.reconciliationResults.find? fun r => r.id == id).map (ReconciliationResult.rename ρ) := by
  refine alone.results.find? (fun r mem sel => ?_) fun r' _ => ?_
  · have own := alone.resultIds r mem ⟨id, (beq_iff_eq.1 sel).symm⟩
    simpa [ownResult] using own
  · rw [Bool.eq_iff_iff, beq_iff_eq, beq_iff_eq]
    exact ρ.result_mono.injective.eq_iff

lemma hasRaw (alone : Alone ρ A s s') {id : ℕ} :
    s.hasRaw side (ρ.row side id) = s'.hasRaw side id := by
  rw [Store.hasRaw, Store.hasRaw, ← List.isSome_find?, ← List.isSome_find?, alone.find?_row,
    Option.isSome_map]

lemma hasAccount (alone : Alone ρ A s s') {id : ℕ} : s.hasAccount id = s'.hasAccount id := by
  rw [Store.hasAccount, Store.hasAccount, alone.accounts]

lemma loadFacts (alone : Alone ρ A s s') {id : ℕ} :
    loadFacts s side (ρ.row side id) = (loadFacts s' side id).map (TxnFacts.rename ρ) := by
  rw [Persist.loadFacts, Persist.loadFacts, alone.find?_row, Option.map_map, Option.map_map]
  rfl

/-- The facts of a row of the tenant are those of a row it has by itself. -/
lemma exists_facts (alone : Alone ρ A s s') (mem : row ∈ s.raw side) (own : row.tenantId = A) :
    ∃ row' ∈ s'.raw side, facts row side = (facts row' side).rename ρ := by
  obtain ⟨row', mem', rfl⟩ := (alone.rows side).exists_of_mem mem (by simpa [ownRow] using own)
  exact ⟨row', mem', facts_rename⟩

/-- The id of another tenant's row is outside the renaming. -/
lemma foreign_row (alone : Alone ρ A s s') (mem : row ∈ s.raw side) (foreign : row.tenantId ≠ A) :
    row.id ∉ Set.range (ρ.row side) := fun own => foreign (alone.rowIds side row mem own)

/-- Only the tenant's own results are looked at for one of its results. -/
lemma conflicts (alone : Alone ρ A s s') {r : ReconciliationResult} (own : r.tenantId = A) :
    conflicts s (r.rename ρ) = conflicts s' r := by
  refine alone.results.any (fun q mem sel => ?_) fun q' _ => ?_
  · have tenant : q.tenantId = r.tenantId := by
      simp only [collides, Bool.or_eq_true, Bool.and_eq_true, beq_iff_eq] at sel
      rcases sel with ⟨⟨_, tenant⟩, _⟩ | ⟨⟨_, tenant⟩, _⟩ <;> exact tenant
    simp [ownResult, tenant, own]
  · have same (side : IngestSource) :
        collides (r.rename ρ) (q'.rename ρ) side = collides r q' side := by
      have inj := (Option.map_injective (ρ.row_mono side).injective).eq_iff
        (a := q'.rawId side) (b := r.rawId side)
      have refs : (Option.map (ρ.row side) (q'.rawId side) ==
          Option.map (ρ.row side) (r.rawId side)) = (q'.rawId side == r.rawId side) := by
        rw [Bool.eq_iff_iff, beq_iff_eq, beq_iff_eq, inj]
      simp only [collides, ReconciliationResult.rename_rawId, Option.isSome_map, refs,
        ReconciliationResult.rename_tenantId, ReconciliationResult.rename_active]
    rw [same, same]

/-- Foreign keys of a result of the tenant are checked alike. -/
lemma foreignKeyError (alone : Alone ρ A s s') {r : ReconciliationResult} :
    foreignKeyError s (r.rename ρ) = foreignKeyError s' r := by
  have hang (side : IngestSource) : dangling s (r.rename ρ) side = dangling s' r side := by
    simp only [dangling, ReconciliationResult.rename_rawId]
    cases r.rawId side with
    | none => rfl
    | some id => simp only [Option.map_some, Option.any_some, alone.hasRaw]
  simp only [Persist.foreignKeyError, ReconciliationResult.rename_tenantId, alone.hasAccount, hang]

end Alone

end Isolation
end LedgerLoop
