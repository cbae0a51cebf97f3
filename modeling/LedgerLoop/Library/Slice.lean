import LedgerLoop.Library.Table
import Mathlib.Data.List.MinMax

/-!
# A table seen by one party

Several parties keep their rows in one table. `Slice own f rows rows'` says that the rows of `rows` that
`own` selects are those of `rows'`, in order and under the renaming `f`: `rows'` is the table the party
would have by itself.

A query that selects own rows only answers the same on both sides (`Slice.filter`, `Slice.find?`,
`Slice.any`), own inserts and updates happen on both (`Slice.append`, `Slice.update`), and those of
others leave the slice alone (`Slice.append_foreign`, `Slice.update_foreign`). `argmin_map` carries the
choice of a least element over, for a renaming that keeps the order of the keys.
-/

set_option autoImplicit false

namespace LedgerLoop.Library

variable {α β κ κ' : Type*}

/-- The rows `own` selects are `rows'` under the renaming `f`. -/
def Slice (own : α → Bool) (f : β → α) (rows : List α) (rows' : List β) : Prop :=
  rows.filter own = rows'.map f

namespace Slice
variable {own p : α → Bool} {p' : β → Bool} {f : β → α} {rows new : List α} {rows' new' : List β}

lemma nil : Slice own f [] [] := rfl

/-- A row of the slice is an own row of the table. -/
lemma mem (slice : Slice own f rows rows') {r' : β} (mem : r' ∈ rows') :
    f r' ∈ rows ∧ own (f r') = true := by
  have listed : f r' ∈ rows.filter own := by
    rw [slice]
    exact List.mem_map_of_mem mem
  exact List.mem_filter.1 listed

/-- An own row of the table is a row of the slice. -/
lemma exists_of_mem (slice : Slice own f rows rows') {r : α} (mem : r ∈ rows)
    (owned : own r = true) : ∃ r' ∈ rows', r = f r' := by
  have listed : r ∈ rows'.map f := by
    rw [← slice]
    exact List.mem_filter.2 ⟨mem, owned⟩
  obtain ⟨r', mem', eq⟩ := List.mem_map.1 listed
  exact ⟨r', mem', eq.symm⟩

/-- A query that selects own rows only. -/
lemma filter (slice : Slice own f rows rows') (owned : ∀ r ∈ rows, p r = true → own r = true)
    (agree : ∀ r' ∈ rows', p (f r') = p' r') : rows.filter p = (rows'.filter p').map f := by
  calc rows.filter p = (rows.filter own).filter p := by
        rw [List.filter_filter]
        refine List.filter_congr fun r mem => ?_
        cases sel : p r with
        | false => rfl
        | true => simp [owned r mem sel]
    _ = (rows'.map f).filter p := by rw [slice]
    _ = (rows'.filter (p ∘ f)).map f := List.filter_map
    _ = (rows'.filter p').map f := congrArg (List.map f) (List.filter_congr agree)

lemma find? (slice : Slice own f rows rows') (owned : ∀ r ∈ rows, p r = true → own r = true)
    (agree : ∀ r' ∈ rows', p (f r') = p' r') : rows.find? p = (rows'.find? p').map f := by
  rw [← List.head?_filter, ← List.head?_filter, slice.filter owned agree, List.head?_map]

lemma any (slice : Slice own f rows rows') (owned : ∀ r ∈ rows, p r = true → own r = true)
    (agree : ∀ r' ∈ rows', p (f r') = p' r') : rows.any p = rows'.any p' := by
  rw [← List.isSome_find?, ← List.isSome_find?, slice.find? owned agree, Option.isSome_map]

lemma countP (slice : Slice own f rows rows') (owned : ∀ r ∈ rows, p r = true → own r = true)
    (agree : ∀ r' ∈ rows', p (f r') = p' r') : rows.countP p = rows'.countP p' := by
  rw [List.countP_eq_length_filter, List.countP_eq_length_filter, slice.filter owned agree,
    List.length_map]

/-- Own rows are appended on both sides. -/
lemma append (slice : Slice own f rows rows') (owned : ∀ r' ∈ new', own (f r') = true) :
    Slice own f (rows ++ new'.map f) (rows' ++ new') := by
  have all : (new'.map f).filter own = new'.map f := by
    refine List.filter_eq_self.2 fun r mem => ?_
    obtain ⟨r', mem', rfl⟩ := List.mem_map.1 mem
    exact owned r' mem'
  rw [Slice, List.filter_append, slice, all, List.map_append]

lemma concat (slice : Slice own f rows rows') {r' : β} (owned : own (f r') = true) :
    Slice own f (rows ++ [f r']) (rows' ++ [r']) := by
  have single : ∀ r ∈ [r'], own (f r) = true := by simpa using owned
  exact slice.append single

/-- Rows of others are appended to the table only. -/
lemma append_foreign (slice : Slice own f rows rows') (foreign : ∀ r ∈ new, own r = false) :
    Slice own f (rows ++ new) rows' := by
  have none : new.filter own = [] := List.filter_eq_nil_iff.2 fun r mem => by simp [foreign r mem]
  rw [Slice, List.filter_append, slice, none, List.append_nil]

/-- An update happens on both sides. -/
lemma update {g : α → α} {g' : β → β} (slice : Slice own f rows rows')
    (keep : ∀ r, own (g r) = own r) (agree : ∀ r' ∈ rows', p (f r') = p' r')
    (same : ∀ r', g (f r') = f (g' r')) :
    Slice own f (updateWhere p g rows) (updateWhere p' g' rows') := by
  rw [Slice, filter_updateWhere_comm _ keep, slice, updateWhere, updateWhere, List.map_map,
    List.map_map]
  refine List.map_congr_left fun r' mem => ?_
  simp only [Function.comp_apply, agree r' mem]
  split_ifs
  · exact same r'
  · rfl

/-- An update of rows of others. -/
lemma update_foreign {g : α → α} (slice : Slice own f rows rows') (keep : ∀ r, own (g r) = own r)
    (foreign : ∀ r ∈ rows, p r = true → own r = false) :
    Slice own f (updateWhere p g rows) rows' :=
  (filter_updateWhere rows keep foreign).trans slice

end Slice

/-- The first least element of a renamed list, when the renaming keeps the order of the keys. -/
lemma argmin_map [Preorder κ] [DecidableLT κ] [Preorder κ'] [DecidableLT κ'] {key : α → κ}
    {key' : β → κ'} {f : β → α} {items : List β}
    (order : ∀ a ∈ items, ∀ b ∈ items, key (f a) < key (f b) ↔ key' a < key' b) :
    (items.map f).argmin key = (items.argmin key').map f := by
  induction items using List.reverseRecOn with
  | nil => rfl
  | append_singleton items a ih =>
    have before := ih fun b memB c memC =>
      order b (List.mem_append_left _ memB) c (List.mem_append_left _ memC)
    rw [List.map_append, List.map_singleton, List.argmin_concat, List.argmin_concat, before]
    cases least : items.argmin key' with
    | none => rfl
    | some b =>
      have memB : b ∈ items ++ [a] := List.mem_append_left _ (List.argmin_mem least)
      simp only [Option.map_some, order a (by simp) b memB]
      split_ifs <;> rfl

end LedgerLoop.Library
