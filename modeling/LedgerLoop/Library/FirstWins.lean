import Mathlib.Tactic

/-!
# The first write wins

A store that takes every submission: the first under a key is kept, each further one is counted. `kept` is
what a log of submissions leaves under a key. It is a function of the log alone, and `kept_append` says how
the log is cut into transactions does not matter.
-/

set_option autoImplicit false

namespace LedgerLoop.Library.FirstWins

variable {α β κ : Type*} [DecidableEq κ] {key : α → κ} {content : α → β} {log rest : List α} {k : κ} {a : α}

/-- What a log leaves under a key: the content of its first submission, and how many there were. -/
def kept (key : α → κ) (content : α → β) (log : List α) (k : κ) : Option (β × ℕ) :=
  (log.find? fun a => key a = k).map fun a => (content a, log.countP fun a => key a = k)

/-- What is under a key after more submissions. -/
def further (key : α → κ) (content : α → β) (log : List α) (k : κ) : Option (β × ℕ) → Option (β × ℕ)
  | none => kept key content log k
  | some (c, n) => some (c, n + log.countP fun a => key a = k)

/-- A log goes on from what it has left. -/
lemma kept_append : kept key content (log ++ rest) k = further key content rest k (kept key content log k) := by
  unfold kept
  rw [List.find?_append, List.countP_append]
  cases found : log.find? fun a => key a = k with
  | some a => rfl
  | none =>
    have absent : log.countP (fun a => key a = k) = 0 :=
      List.countP_eq_zero.2 (List.find?_eq_none.1 found)
    rw [Option.none_or, absent, zero_add]
    rfl

/-- Submissions under other keys do not matter. -/
lemma further_of_ne {o : Option (β × ℕ)} (other : ∀ a ∈ log, key a ≠ k) : further key content log k o = o := by
  have absent : log.countP (fun a => key a = k) = 0 :=
    List.countP_eq_zero.2 fun a mem same => other a mem (of_decide_eq_true same)
  cases o with
  | none =>
    have found : (log.find? fun a => key a = k) = none :=
      List.find?_eq_none.2 fun a mem same => other a mem (of_decide_eq_true same)
    rw [further, kept, found, Option.map_none]
  | some p => rw [further, absent, add_zero]

/-- Nothing is under a key that was not submitted. -/
lemma kept_eq_none (other : ∀ a ∈ log, key a ≠ k) : kept key content log k = none :=
  show further key content log k none = none from further_of_ne other

/-- A key is held iff it was submitted. -/
lemma kept_isSome : (kept key content log k).isSome = true ↔ ∃ a ∈ log, key a = k := by
  simp [kept]

/-- What is kept is the content of a submission, and the tally of the key. -/
lemma of_kept {c : β} {n : ℕ} (held : kept key content log k = some (c, n)) :
    (∃ a ∈ log, key a = k ∧ content a = c) ∧ n = log.countP fun a => key a = k := by
  obtain ⟨a, found, eq⟩ := Option.map_eq_some_iff.1 held
  obtain ⟨rfl, rfl⟩ := Prod.mk.inj eq
  exact ⟨⟨a, List.mem_of_find?_eq_some found, by simpa using List.find?_some found, rfl⟩, rfl⟩

/-- What is kept is the content of every submission, if those of the key agree. -/
lemma kept_of_mem (mem : a ∈ log) (agree : ∀ b ∈ log, key b = key a → content b = content a) :
    kept key content log (key a) = some (content a, log.countP fun b => key b = key a) := by
  have present : (kept key content log (key a)).isSome = true := kept_isSome.2 ⟨a, mem, rfl⟩
  obtain ⟨⟨c, n⟩, held⟩ := Option.isSome_iff_exists.1 present
  obtain ⟨⟨b, memB, same, rfl⟩, rfl⟩ := of_kept held
  rw [held, agree b memB same]

/-- The order of a log does not matter if the submissions under a key agree. -/
lemma kept_perm (perm : log.Perm rest) (agree : ∀ a ∈ rest, ∀ b ∈ rest, key a = key b → content a = content b) :
    kept key content log k = kept key content rest k := by
  cases held : kept key content log k with
  | none =>
    cases held' : kept key content rest k with
    | none => rfl
    | some p =>
      obtain ⟨a, mem, same⟩ := kept_isSome.1 (held'.symm ▸ rfl : (kept key content rest k).isSome = true)
      have present : (kept key content log k).isSome = true := kept_isSome.2 ⟨a, perm.mem_iff.2 mem, same⟩
      rw [held] at present
      cases present
  | some p =>
    obtain ⟨⟨a, mem, rfl, eq⟩, count⟩ := of_kept held
    have mem' := perm.mem_iff.1 mem
    rw [kept_of_mem mem' fun b memB same => agree b memB a mem' same, eq, ← perm.countP_eq, ← count]

/-- What is under a key comes of the part of the log that uses it. -/
lemma kept_flatMap {γ : Type*} {f : γ → List α} {plan : List γ} {p : γ} (nodup : plan.Nodup) (mem : p ∈ plan)
    (other : ∀ q ∈ plan, q ≠ p → ∀ a ∈ f q, key a ≠ k) :
    kept key content (plan.flatMap f) k = kept key content (f p) k := by
  obtain ⟨before, after, rfl⟩ := List.append_of_mem mem
  obtain ⟨_, nodupP, disjoint⟩ := List.nodup_append.1 nodup
  have fresh : p ∉ after := (List.nodup_cons.1 nodupP).1
  have absent : kept key content (before.flatMap f) k = none := by
    apply kept_eq_none
    intro a listed
    obtain ⟨q, memQ, here⟩ := List.mem_flatMap.1 listed
    apply other q (List.mem_append_left _ memQ) _ a here
    rintro rfl
    exact disjoint q memQ q List.mem_cons_self rfl
  rw [List.flatMap_append, List.flatMap_cons, kept_append, absent, further, kept_append]
  apply further_of_ne
  intro a listed
  obtain ⟨q, memQ, here⟩ := List.mem_flatMap.1 listed
  apply other q (List.mem_append_right _ (List.mem_cons_of_mem _ memQ)) _ a here
  rintro rfl
  exact fresh memQ

end LedgerLoop.Library.FirstWins
