import Mathlib.Tactic

/-!
# The first rows by a key

`SELECT .. ORDER BY key LIMIT n` over a list of rows. Rows with equal keys come in the order of the
list, so that a query without a tie-break is `earliest` of some permutation of its rows; `Earliest` is
what all of these have in common.
-/

set_option autoImplicit false

namespace LedgerLoop.Library

variable {α κ : Type*} [LinearOrder κ] {key : α → κ} {limit : ℕ} {rows rows' batch : List α}

/-- `ORDER BY key LIMIT limit`. -/
def earliest (key : α → κ) (limit : ℕ) (rows : List α) : List α :=
  (rows.mergeSort fun a b => key a ≤ key b).take limit

/-- A batch is the `limit` rows with the least keys, in their order. -/
structure Earliest (key : α → κ) (limit : ℕ) (rows batch : List α) : Prop where
  sorted : batch.Pairwise fun a b => key a ≤ key b
  length : batch.length = min limit rows.length
  least : ∃ rest, (batch ++ rest).Perm rows ∧ ∀ a ∈ batch, ∀ b ∈ rest, key a ≤ key b

lemma earliest_spec (perm : rows.Perm rows') :
    Earliest key limit rows' (earliest key limit rows) := by
  let le (a b : α) : Bool := key a ≤ key b
  have ordered : (rows.mergeSort le).Pairwise fun a b => key a ≤ key b := by
    have := @List.pairwise_mergeSort _ le
      (fun a b c ab bc => by simp only [le, decide_eq_true_eq] at *; exact ab.trans bc)
      (fun a b => by simpa [le] using le_total (key a) (key b)) rows
    exact this.imp fun h => by simpa [le] using h
  have split := List.take_append_drop limit (rows.mergeSort le)
  rw [← split, List.pairwise_append] at ordered
  refine ⟨ordered.1, ?_, (rows.mergeSort le).drop limit, ?_, ordered.2.2⟩
  · rw [earliest, List.length_take, List.length_mergeSort, perm.length_eq]
  · rw [earliest, split]
    exact (List.mergeSort_perm rows le).trans perm

/-- Rows that are in order already. -/
lemma earliest_of_sorted (sorted : rows.Pairwise fun a b => key a ≤ key b) :
    earliest key limit rows = rows.take limit := by
  rw [earliest, List.mergeSort_of_pairwise]
  exact sorted.imp fun h => by simpa using h

namespace Earliest

lemma subset (e : Earliest key limit rows batch) : ∀ a ∈ batch, a ∈ rows := by
  obtain ⟨rest, perm, _⟩ := e.least
  exact fun a mem => perm.subset (List.mem_append_left rest mem)

lemma nodup {β : Type*} {column : α → β} (e : Earliest key limit rows batch)
    (nd : (rows.map column).Nodup) : (batch.map column).Nodup := by
  obtain ⟨rest, perm, _⟩ := e.least
  have all := (perm.map column).nodup_iff.2 nd
  rw [List.map_append] at all
  exact all.of_append_left

lemma length_le (e : Earliest key limit rows batch) : batch.length ≤ limit :=
  e.length ▸ min_le_left _ _

/-- A row that is left out has no less a key than one that is taken. -/
lemma le_of_not_mem (e : Earliest key limit rows batch) {a b : α} (memA : a ∈ batch) (memB : b ∈ rows)
    (out : b ∉ batch) : key a ≤ key b := by
  obtain ⟨rest, perm, least⟩ := e.least
  exact least a memA b ((List.mem_append.1 (perm.mem_iff.2 memB)).resolve_left out)

/-- No row is left out of a batch that is not full. -/
lemma mem_of_lt (e : Earliest key limit rows batch) (short : batch.length < limit) {b : α}
    (mem : b ∈ rows) : b ∈ batch := by
  obtain ⟨rest, perm, _⟩ := e.least
  have total := perm.length_eq
  rw [List.length_append] at total
  have none_left : rest = [] := List.length_eq_zero_iff.1 (by have := e.length; omega)
  simpa [none_left] using perm.mem_iff.2 mem

/-- The batch is empty iff there is nothing to take. -/
lemma eq_nil_iff (e : Earliest key limit rows batch) (pos : 0 < limit) : batch = [] ↔ rows = [] := by
  rw [← List.length_eq_zero_iff, ← List.length_eq_zero_iff, e.length]
  omega

end Earliest

end LedgerLoop.Library
