import LedgerLoop.Worker.Window

/-!
# Counterparty search against its specification

`find_counterparties` is a range query with inclusive ends, `decide` a filter by verdict and a minimum
over a four-part key. `Rival` and `Answer` say what the two are for together, over the whole opposite
table: the answer is the least pending row of the tenant that has a verdict with the candidate, or none
if there is no such row.

Ids are unique within a table, so the least row is unique (`Answer.unique`), which is why neither the
order of the queried rows nor the rows outside the window matter.
-/

set_option autoImplicit false

namespace LedgerLoop
open LedgerLoop.Library

namespace Persist

/-- A pending row of the other side, of the candidate's tenant, that has a verdict with it. -/
def Rival (s : Store) (candidate : TxnFacts) (config : MatchConfig) (row : RawRow)
    (verdict : ReconStatus × MatchLayer) : Prop :=
  row ∈ s.raw candidate.side.other ∧ row.pending = true ∧ row.tenantId = candidate.tenantId ∧
    Core.classifyPair candidate (facts row candidate.side.other) config = some verdict

/-- The key of a row under its verdict: layer rank, time distance, amount distance, row id. -/
def rivalKey (candidate : TxnFacts) (row : RawRow) (verdict : ReconStatus × MatchLayer) : SortKey :=
  Core.sortKey candidate (facts row candidate.side.other) verdict.2

/-- What the matcher is to answer for a candidate, over the whole opposite table. -/
inductive Answer (s : Store) (candidate : TxnFacts) (config : MatchConfig) : Option Decision → Prop where
  | defer :
    (∀ row verdict, ¬Rival s candidate config row verdict) →
    Answer s candidate config none
  | pair {d : Decision} {row : RawRow} :
    Rival s candidate config row (d.status, d.layer) →
    (∀ row' verdict', Rival s candidate config row' verdict' →
      rivalKey candidate row (d.status, d.layer) ≤ rivalKey candidate row' verdict') →
    d.rowId candidate.side = some candidate.rowId →
    d.rowId candidate.side.other = some row.id →
    d.notes = Core.pairNotes candidate (facts row candidate.side.other) d.layer config →
    Answer s candidate config (some d)

/-- The pending rows of the candidate's tenant on the other side, inside and outside the window. -/
def allPending (s : Store) (candidate : TxnFacts) : List TxnFacts :=
  ((s.raw candidate.side.other).filter fun row =>
    row.pending && row.tenantId == candidate.tenantId).map fun row => facts row candidate.side.other

/-- The search returns, and whatever order its rows come in, the decision is the specified one, the
    same as over all pending rows of the tenant. -/
def Searches (s : Store) (candidate : TxnFacts) (config : MatchConfig) : Prop :=
  ∃ found, findCounterparties s candidate config = .ok found ∧
    ∀ counterparties, counterparties.Perm found →
      Answer s candidate config (Core.decide candidate counterparties config) ∧
        Core.decide candidate counterparties config =
          Core.decide candidate (allPending s candidate) config

section
variable {s : Store} {candidate : TxnFacts} {config : MatchConfig} {counterparties : List TxnFacts}
  {a b : Option Decision}

/-- Two decisions with the same columns are the same. -/
lemma Decision.eq_of_columns {d d' : Decision} (side : IngestSource) (status : d.status = d'.status)
    (layer : d.layer = d'.layer) (own : d.rowId side = d'.rowId side)
    (opposite : d.rowId side.other = d'.rowId side.other) (notes : d.notes = d'.notes) : d = d' := by
  cases d
  cases d'
  cases side <;> simp_all [Decision.rowId, IngestSource.other]

/-- The least rival is unique, so the specification has one answer. -/
lemma Answer.unique (ids : ((s.raw candidate.side.other).map RawRow.id).Nodup)
    (ans : Answer s candidate config a) (ans' : Answer s candidate config b) : a = b := by
  cases ans with
  | defer none_a =>
    cases ans' with
    | defer _ => rfl
    | pair rival _ _ _ _ => exact absurd rival (none_a _ _)
  | @pair d row rival least own opposite notes =>
    cases ans' with
    | defer none_b => exact absurd rival (none_b _ _)
    | @pair d' row' rival' least' own' opposite' notes' =>
      have key : rivalKey candidate row (d.status, d.layer) =
          rivalKey candidate row' (d'.status, d'.layer) :=
        le_antisymm (least _ _ rival') (least' _ _ rival)
      have idEq : row.id = row'.id := congrArg SortKey.rowId key
      obtain rfl := eq_of_key ids rival.1 rival'.1 idEq
      obtain ⟨status, layer⟩ := Prod.mk.inj (Option.some.inj (rival.2.2.2.symm.trans rival'.2.2.2))
      refine congrArg some (Decision.eq_of_columns candidate.side status layer ?_ ?_ ?_)
      · rw [own, own']
      · rw [opposite, opposite']
      · rw [notes, notes', layer]

/-- A list of counterparties that holds every rival, and stored pending rows of the tenant only, is
    decided as specified. -/
lemma decide_answer
    (complete : ∀ row verdict, Rival s candidate config row verdict →
      facts row candidate.side.other ∈ counterparties)
    (sound : ∀ f ∈ counterparties, ∃ row ∈ s.raw candidate.side.other, row.pending = true ∧
      row.tenantId = candidate.tenantId ∧ f = facts row candidate.side.other) :
    Answer s candidate config (Core.decide candidate counterparties config) := by
  cases decided : Core.decide candidate counterparties config with
  | none =>
    refine .defer fun row verdict rival => ?_
    have := Core.decide_eq_none.1 decided _ (complete row verdict rival)
    rw [rival.2.2.2] at this
    cases this
  | some d =>
    obtain ⟨best, mem, status, layer, verdict, rfl, least⟩ := Core.decide_spec decided
    obtain ⟨row, stored, pending, tenant, rfl⟩ := sound best mem
    obtain ⟨own, opposite⟩ := @Core.pairDecision_rowId candidate config
      (facts row candidate.side.other) status layer
    refine .pair ⟨stored, pending, tenant, verdict⟩ ?_ own opposite rfl
    rintro row' ⟨status', layer'⟩ rival'
    exact least _ (complete row' _ rival') status' layer' rival'.2.2.2

/-- What the query returns is decided as specified, in any order. -/
lemma decide_found_answer {found : List TxnFacts} (windows : config.exactWindow ≤ config.driftWindow)
    (query : findCounterparties s candidate config = .ok found)
    (order : counterparties.Perm found) :
    Answer s candidate config (Core.decide candidate counterparties config) := by
  refine decide_answer ?_ ?_
  · rintro row verdict ⟨stored, pending, _, viable⟩
    exact order.mem_iff.2 (viable_mem_findCounterparties windows query stored pending viable)
  · intro f mem
    obtain ⟨row, stored, pending, tenant, _, _, eq⟩ :=
      (mem_findCounterparties query).1 (order.mem_iff.1 mem)
    exact ⟨row, stored, pending, tenant, eq⟩

/-- All pending rows of the tenant are decided as specified. -/
lemma decide_allPending_answer :
    Answer s candidate config (Core.decide candidate (allPending s candidate) config) := by
  refine decide_answer ?_ ?_
  · rintro row verdict ⟨stored, pending, tenant, _⟩
    exact List.mem_map.2 ⟨row, by simp [stored, pending, tenant], rfl⟩
  · intro f mem
    obtain ⟨row, selected, rfl⟩ := List.mem_map.1 mem
    obtain ⟨stored, both⟩ := List.mem_filter.1 selected
    rw [Bool.and_eq_true, beq_iff_eq] at both
    exact ⟨row, stored, both.1, both.2, rfl⟩

end

end Persist
end LedgerLoop
