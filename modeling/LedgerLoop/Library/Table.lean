import Mathlib.Tactic

/-!
# Tables as lists of rows

A database table is the list of its committed rows in insertion order. `updateWhere` is
`UPDATE .. SET .. WHERE`, `deleteWhere` is `DELETE .. WHERE`, an insert appends. A unique index is
`(rows.map key).Nodup`; a partial one is `UniqueOn p key rows`, uniqueness among the rows its
predicate selects. The counting lemmas turn uniqueness into "at most one" and "exactly one".
-/

set_option autoImplicit false

namespace LedgerLoop.Library

variable {α β κ : Type*}

/-- `UPDATE rows SET f WHERE p`. -/
def updateWhere (p : α → Bool) (f : α → α) (rows : List α) : List α :=
  rows.map fun r => if p r then f r else r

/-- `DELETE FROM rows WHERE p`. -/
def deleteWhere (p : α → Bool) (rows : List α) : List α :=
  rows.filter fun r => !p r

lemma mem_updateWhere {p : α → Bool} {f : α → α} {rows : List α} {r : α} :
    r ∈ updateWhere p f rows ↔
      (∃ r0 ∈ rows, p r0 = true ∧ r = f r0) ∨ (r ∈ rows ∧ p r = false) := by
  simp only [updateWhere, List.mem_map]
  constructor
  · rintro ⟨r0, mem, rfl⟩
    by_cases h : p r0 = true
    · exact .inl ⟨r0, mem, h, by simp [h]⟩
    · exact .inr ⟨by simp [h, mem], by simp [h]⟩
  · rintro (⟨r0, mem, h, rfl⟩ | ⟨mem, h⟩)
    · exact ⟨r0, mem, by simp [h]⟩
    · exact ⟨r, mem, by simp [h]⟩

lemma mem_deleteWhere {p : α → Bool} {rows : List α} {r : α} :
    r ∈ deleteWhere p rows ↔ r ∈ rows ∧ p r = false := by
  simp [deleteWhere]

/-- An update that keeps `g` leaves the column `g` of the table unchanged. -/
lemma map_updateWhere {p : α → Bool} {f : α → α} {g : α → β} (rows : List α)
    (keep : ∀ r, g (f r) = g r) : (updateWhere p f rows).map g = rows.map g := by
  simp only [updateWhere, List.map_map]
  apply List.map_congr_left
  intro r _
  by_cases h : p r = true <;> simp [h, keep]

/-- An update of rows that `q` does not select leaves the selection by `q` unchanged. -/
lemma filter_updateWhere {p q : α → Bool} {f : α → α} (rows : List α)
    (keep : ∀ r, q (f r) = q r) (apart : ∀ r ∈ rows, p r = true → q r = false) :
    (updateWhere p f rows).filter q = rows.filter q := by
  induction rows with
  | nil => rfl
  | cons r rows ih =>
    have tail := ih fun r' mem => apart r' (List.mem_cons_of_mem _ mem)
    have head := apart r List.mem_cons_self
    simp only [updateWhere, List.map_cons, List.filter_cons] at tail ⊢
    by_cases h : p r = true
    · simp [h, keep, head h, tail]
    · simp [h, tail]

/-- An update that keeps the selection by `q` commutes with it. -/
lemma filter_updateWhere_comm {p q : α → Bool} {f : α → α} (rows : List α)
    (keep : ∀ r, q (f r) = q r) :
    (updateWhere p f rows).filter q = updateWhere p f (rows.filter q) := by
  induction rows with
  | nil => rfl
  | cons r rows ih =>
    simp only [updateWhere, List.map_cons] at ih ⊢
    by_cases sel : p r = true <;> by_cases kept : q r = true <;> simp [sel, kept, keep, ih]

/-- An update that takes the rows it changes out of the selection by `q`. -/
lemma filter_updateWhere_out {p q : α → Bool} {f : α → α} (rows : List α)
    (out : ∀ r ∈ rows, p r = true → q (f r) = false) :
    (updateWhere p f rows).filter q = rows.filter fun r => q r && !p r := by
  induction rows with
  | nil => rfl
  | cons r rows ih =>
    have tail := ih fun r' mem => out r' (List.mem_cons_of_mem _ mem)
    have head := out r List.mem_cons_self
    simp only [updateWhere, List.map_cons, List.filter_cons] at tail ⊢
    by_cases sel : p r = true
    · simp [sel, head sel, tail]
    · simp [sel, tail]

/-- An update that selects nothing. -/
lemma updateWhere_eq_self {p : α → Bool} {f : α → α} {rows : List α}
    (none : ∀ r ∈ rows, p r = false) : updateWhere p f rows = rows := by
  refine (List.map_congr_left fun r mem => ?_).trans (List.map_id rows)
  simp [none r mem]

/-- An update that selects everything. -/
lemma updateWhere_eq_map {p : α → Bool} {f : α → α} {rows : List α}
    (all : ∀ r ∈ rows, p r = true) : updateWhere p f rows = rows.map f :=
  List.map_congr_left fun r mem => by simp [all r mem]

/-- Rows with equal keys are equal when the key column has no duplicates. -/
lemma eq_of_key {key : α → κ} {rows : List α} {r r' : α}
    (nd : (rows.map key).Nodup) (mem : r ∈ rows) (mem' : r' ∈ rows) (e : key r = key r') : r = r' :=
  List.inj_on_of_nodup_map nd mem mem' e

/-- Appending a row with a fresh key keeps the key column duplicate-free. -/
lemma nodup_map_concat {key : α → κ} {rows : List α} {r : α}
    (nd : (rows.map key).Nodup) (fresh : ∀ r' ∈ rows, key r' ≠ key r) :
    ((rows ++ [r]).map key).Nodup := by
  simp only [List.map_append, List.map_cons, List.map_nil]
  refine nd.append (List.nodup_singleton _) ?_
  simp only [List.disjoint_singleton, List.mem_map, not_exists, not_and]
  exact fresh

/-- Deleting rows keeps the key column duplicate-free. -/
lemma nodup_map_deleteWhere {key : α → κ} {p : α → Bool} {rows : List α}
    (nd : (rows.map key).Nodup) : ((deleteWhere p rows).map key).Nodup :=
  (List.filter_sublist.map key).nodup nd

/-- Uniqueness of a partial index: rows selected by `p` are determined by `key`. -/
def UniqueOn (p : α → Prop) (key : α → Option κ) (rows : List α) : Prop :=
  ∀ r ∈ rows, ∀ r' ∈ rows, p r → p r' → ∀ k, key r = some k → key r' = some k → r = r'

lemma UniqueOn.concat {p : α → Prop} {key : α → Option κ} {rows : List α} {r : α}
    (uniq : UniqueOn p key rows)
    (free : p r → ∀ k, key r = some k → ∀ r' ∈ rows, p r' → key r' ≠ some k) :
    UniqueOn p key (rows ++ [r]) := by
  intro a memA b memB pa pb k ka kb
  simp only [List.mem_append, List.mem_singleton] at memA memB
  rcases memA with memA | rfl <;> rcases memB with memB | rfl
  · exact uniq a memA b memB pa pb k ka kb
  · exact absurd ka (free pb k kb a memA pa)
  · exact absurd kb (free pa k ka b memB pb)
  · rfl

lemma UniqueOn.sublist {p : α → Prop} {key : α → Option κ} {rows rows' : List α}
    (uniq : UniqueOn p key rows) (sub : ∀ r ∈ rows', r ∈ rows) : UniqueOn p key rows' :=
  fun a memA b memB => uniq a (sub a memA) b (sub b memB)

/-- A predicate that at most one row satisfies is satisfied at most once. -/
lemma countP_le_one {p : α → Bool} {rows : List α} (nd : rows.Nodup)
    (uniq : ∀ r ∈ rows, ∀ r' ∈ rows, p r = true → p r' = true → r = r') : rows.countP p ≤ 1 := by
  rw [List.countP_eq_length_filter]
  have nd' : (rows.filter p).Nodup := nd.filter _
  match h : rows.filter p with
  | [] => simp
  | [_] => simp
  | a :: b :: _ =>
    have memA : a ∈ rows.filter p := by simp [h]
    have memB : b ∈ rows.filter p := by simp [h]
    have e : a = b := uniq a (List.mem_of_mem_filter memA) b (List.mem_of_mem_filter memB)
      (List.of_mem_filter memA) (List.of_mem_filter memB)
    rw [h] at nd'
    simp [e] at nd'

/-- Under uniqueness, "exactly one row" and "some row" are the same. -/
lemma countP_eq_one_iff {p : α → Bool} {rows : List α} (nd : rows.Nodup)
    (uniq : ∀ r ∈ rows, ∀ r' ∈ rows, p r = true → p r' = true → r = r') :
    rows.countP p = 1 ↔ ∃ r ∈ rows, p r = true := by
  have le := countP_le_one nd uniq
  rw [← List.countP_pos_iff]
  omega

/-- A predicate no row satisfies is never satisfied. -/
lemma countP_eq_zero_of {p : α → Bool} {rows : List α} (free : ∀ r ∈ rows, p r = false) :
    rows.countP p = 0 :=
  List.countP_eq_zero.2 fun r mem => by simp [free r mem]

end LedgerLoop.Library
