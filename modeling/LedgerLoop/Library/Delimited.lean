import Mathlib.Data.List.Basic

/-!
# Delimited text

Records of fields, with a separator between the fields and an end after each record. Splitting at the ends and
then at the separators gives the records back if neither stands in a field (`records_text`). Lines of nothing
but separators and space do not count.
-/

set_option autoImplicit false

namespace LedgerLoop.Library.Delimited
variable {α : Type*}

/-- A record as it is written. -/
def line (sep : α) (fields : List (List α)) : List α := [sep].intercalate fields

/-- Records as they are written. -/
def text (sep eol : α) (rs : List (List (List α))) : List α := rs.flatMap fun fields => line sep fields ++ [eol]

/-- A record without a visible unit. -/
def blank (space : α → Bool) (fields : List (List α)) : Bool := fields.flatten.all space

/-- The records of a text. -/
def records [DecidableEq α] (sep eol : α) (space : α → Bool) (t : List α) : List (List (List α)) :=
  ((t.splitOn eol).map (·.splitOn sep)).filter (!blank space ·)

example : records ',' '\n' (· == ' ') "a,b\n,\nc,\n".toList = [[['a'], ['b']], [['c'], []]] := by decide

section RoundTrip
variable {sep eol : α} {space : α → Bool} {fields : List (List α)} {rs : List (List (List α))} {t : List α}

/-- The units of a line. -/
lemma of_mem_line {u : α} (mem : u ∈ line sep fields) : u = sep ∨ ∃ f ∈ fields, u ∈ f := by
  induction fields with
  | nil => cases mem
  | cons f fields ih =>
    cases fields with
    | nil =>
      have own : u ∈ f := by simpa [line, List.intercalate] using mem
      exact .inr ⟨f, List.mem_cons_self, own⟩
    | cons g fields =>
      have split : u ∈ f ++ sep :: line sep (g :: fields) := by simpa [line, List.intercalate] using mem
      rcases List.mem_append.1 split with own | rest
      · exact .inr ⟨f, List.mem_cons_self, own⟩
      · rcases List.mem_cons.1 rest with eq | rest
        · exact .inl eq
        · apply (ih rest).imp_right
          rintro ⟨f', mem', own⟩
          exact ⟨f', List.mem_cons_of_mem _ mem', own⟩

/-- Lines put between ends, and one more end, are lines that are ended. -/
lemma intercalate_ends {ls : List (List α)} (some_ : ls ≠ []) :
    [eol].intercalate ls ++ [eol] = ls.flatMap (· ++ [eol]) := by
  induction ls with
  | nil => exact absurd rfl some_
  | cons l ls ih =>
    cases ls with
    | nil => simp [List.intercalate]
    | cons l' ls =>
      have rest := ih (List.cons_ne_nil _ _)
      have first : [eol].intercalate (l :: l' :: ls) = l ++ eol :: [eol].intercalate (l' :: ls) := by
        simp [List.intercalate]
      rw [first, List.append_assoc, List.cons_append, rest]
      simp

variable [DecidableEq α]

/-- A line is split at its separators. -/
lemma splitOn_line (some_ : fields ≠ []) (none : ∀ f ∈ fields, sep ∉ f) : (line sep fields).splitOn sep = fields :=
  List.splitOn_intercalate sep none some_

/-- The first line of a text ends at the first end. -/
lemma splitOn_first (none : eol ∉ t) (rest : List α) : (t ++ eol :: rest).splitOn eol = t :: rest.splitOn eol := by
  apply List.splitOnP_append_cons_of_forall_mem
  · intro u mem
    exact beq_false_of_ne fun same => none (same ▸ mem)
  · exact beq_self_eq_true eol

/-- Ends without lines hold no records. -/
lemma records_ends (k : ℕ) : records sep eol space (List.replicate k eol) = [] := by
  induction k with
  | zero => rfl
  | succ k ih =>
    rw [List.replicate_succ, records]
    have first : (eol :: List.replicate k eol).splitOn eol = [] :: (List.replicate k eol).splitOn eol :=
      splitOn_first List.not_mem_nil _
    rw [first, List.map_cons, List.filter_cons]
    exact ih

/-- The records of a text are those it is the text of. -/
theorem records_text (apart : eol ≠ sep) (some_ : ∀ r ∈ rs, r ≠ []) (noSep : ∀ r ∈ rs, ∀ f ∈ r, sep ∉ f)
    (noEol : ∀ r ∈ rs, ∀ f ∈ r, eol ∉ f) (visible : ∀ r ∈ rs, blank space r = false) (k : ℕ) :
    records sep eol space (text sep eol rs ++ List.replicate k eol) = rs := by
  induction rs with
  | nil => exact records_ends k
  | cons r rs ih =>
    have rest := ih (fun r' mem => some_ r' (List.mem_cons_of_mem _ mem))
      (fun r' mem => noSep r' (List.mem_cons_of_mem _ mem)) (fun r' mem => noEol r' (List.mem_cons_of_mem _ mem))
      (fun r' mem => visible r' (List.mem_cons_of_mem _ mem))
    have whole : eol ∉ line sep r := by
      intro mem
      rcases of_mem_line mem with same | ⟨f, memF, own⟩
      · exact apart same
      · exact noEol r List.mem_cons_self f memF own
    have shape : text sep eol (r :: rs) ++ List.replicate k eol =
        line sep r ++ eol :: (text sep eol rs ++ List.replicate k eol) := by
      simp [text]
    rw [records, shape, splitOn_first whole, List.map_cons,
      splitOn_line (some_ r List.mem_cons_self) (noSep r List.mem_cons_self), List.filter_cons,
      visible r List.mem_cons_self]
    exact congrArg (r :: ·) rest

end RoundTrip
end LedgerLoop.Library.Delimited
