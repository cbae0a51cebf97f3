import Mathlib.Tactic

/-!
# Fallible loops

A loop that maps a fallible function over a list, `List.mapM` in `Except`, succeeds iff every element
does, and then lists the results element by element (`mapM_eq_ok`). `mapM_ok_map` compares two such
loops, and `countP_forall₂` counts along such a correspondence.
-/

set_option autoImplicit false

namespace LedgerLoop.Library

variable {α β ε : Type*}

/-- A call whose error is dropped has a result iff it returns one. -/
lemma toOption_map_eq_some {f : α → β} {x : Except ε α} {y : β} :
    x.toOption.map f = some y ↔ ∃ a, x = .ok a ∧ f a = y := by
  cases x <;> simp [Except.toOption]

/-- A call whose result is mapped returns iff the call does. -/
lemma map_eq_ok {f : α → β} {x : Except ε α} {y : β} :
    x.map f = .ok y ↔ ∃ a, x = .ok a ∧ f a = y := by
  cases x <;> simp [Except.map]

/-- A loop succeeds iff every iteration does. -/
lemma mapM_eq_ok {f : α → Except ε β} {xs : List α} {ys : List β} :
    xs.mapM f = .ok ys ↔ List.Forall₂ (fun x y => f x = .ok y) xs ys := by
  induction xs generalizing ys with
  | nil =>
    constructor
    · intro h
      obtain rfl := Except.ok.inj h
      exact .nil
    · intro h
      cases h
      rfl
  | cons x xs ih =>
    simp only [List.mapM_cons, bind, Except.bind, pure, Except.pure]
    constructor
    · intro h
      split at h
      · cases h
      rename_i y headEq
      split at h
      · cases h
      rename_i ys' tailEq
      obtain rfl := Except.ok.inj h
      exact .cons headEq (ih.1 tailEq)
    · intro h
      cases h with
      | cons headEq tail => simp [headEq, ih.2 tail]

/-- A loop whose every iteration succeeds. -/
lemma exists_mapM_ok {f : α → Except ε β} {xs : List α} (each : ∀ x ∈ xs, ∃ y, f x = .ok y) :
    ∃ ys, xs.mapM f = .ok ys := by
  induction xs with
  | nil => exact ⟨[], rfl⟩
  | cons x xs ih =>
    obtain ⟨y, headEq⟩ := each x List.mem_cons_self
    obtain ⟨ys, tailEq⟩ := ih fun x' mem => each x' (List.mem_cons_of_mem _ mem)
    refine ⟨y :: ys, ?_⟩
    simp only [List.mapM_cons, headEq, tailEq, bind, Except.bind, pure, Except.pure]

/-- A loop whose every iteration does what another loop's does, up to a renaming of its result. -/
lemma mapM_ok_map {γ ε' : Type*} {f : α → Except ε γ} {g : α → Except ε' β} {h : β → γ} {xs : List α}
    {ys : List γ} (ok : xs.mapM f = .ok ys)
    (follows : ∀ x ∈ xs, ∀ y, f x = .ok y → ∃ y', g x = .ok y' ∧ y = h y') :
    ∃ ys', xs.mapM g = .ok ys' ∧ ys = ys'.map h := by
  have each := mapM_eq_ok.1 ok
  clear ok
  induction each with
  | nil => exact ⟨[], rfl, rfl⟩
  | @cons x y xs ys head _ ih =>
    obtain ⟨y', headEq, rfl⟩ := follows x List.mem_cons_self y head
    obtain ⟨ys', tailEq, rfl⟩ := ih fun x' mem => follows x' (List.mem_cons_of_mem _ mem)
    refine ⟨y' :: ys', ?_, rfl⟩
    simp only [List.mapM_cons, headEq, tailEq, bind, Except.bind, pure, Except.pure]

/-- Elements of a successful loop's results are results of elements. -/
lemma exists_of_mem_forall₂ {R : α → β → Prop} {xs : List α} {ys : List β} {y : β}
    (h : List.Forall₂ R xs ys) (mem : y ∈ ys) : ∃ x ∈ xs, R x y := by
  induction h with
  | nil => cases mem
  | cons head _ ih =>
    rcases List.mem_cons.1 mem with rfl | mem
    · exact ⟨_, List.mem_cons_self, head⟩
    · obtain ⟨x, memX, rel⟩ := ih mem
      exact ⟨x, List.mem_cons_of_mem _ memX, rel⟩

/-- Every element of a successful loop has a result. -/
lemma exists_forall₂_of_mem {R : α → β → Prop} {xs : List α} {ys : List β} {x : α}
    (h : List.Forall₂ R xs ys) (mem : x ∈ xs) : ∃ y ∈ ys, R x y := by
  obtain ⟨y, memY, rel⟩ := exists_of_mem_forall₂ h.flip mem
  exact ⟨y, memY, rel⟩

/-- Counting on one side of a correspondence counts on the other. -/
lemma countP_forall₂ {R : α → β → Prop} {p : α → Bool} {q : β → Bool} {xs : List α} {ys : List β}
    (h : List.Forall₂ R xs ys) (agree : ∀ x ∈ xs, ∀ y, R x y → p x = q y) :
    xs.countP p = ys.countP q := by
  induction h with
  | nil => rfl
  | cons head _ ih =>
    have tail := ih fun x mem => agree x (List.mem_cons_of_mem _ mem)
    simp [List.countP_cons, tail, agree _ List.mem_cons_self _ head]

/-- A loop in `Option` has a result iff every iteration does. -/
lemma mapM_isSome {f : α → Option β} {xs : List α} :
    (xs.mapM f).isSome = true ↔ ∀ x ∈ xs, (f x).isSome = true := by
  induction xs with
  | nil => simp
  | cons x xs ih =>
    rw [List.mapM_cons, List.forall_mem_cons, ← ih]
    cases f x <;> cases xs.mapM f <;> simp

lemma length_of_mapM {f : α → Option β} {xs : List α} {ys : List β} (eq : xs.mapM f = some ys) :
    ys.length = xs.length := by
  induction xs generalizing ys with
  | nil =>
    rw [← Option.some.inj eq]
    rfl
  | cons x xs ih =>
    rw [List.mapM_cons] at eq
    cases head : f x with
    | none => simp [head] at eq
    | some y =>
      cases tail : xs.mapM f with
      | none => simp [head, tail] at eq
      | some ys' =>
        rw [head, tail] at eq
        rw [← Option.some.inj eq, List.length_cons, List.length_cons, ih tail]

/-- Two loops in `Option` are one. -/
lemma mapM_bind_mapM {γ : Type*} {f : α → Option β} {g : β → Option γ} {xs : List α} :
    (xs.mapM f).bind (·.mapM g) = xs.mapM fun x => (f x).bind g := by
  induction xs with
  | nil => rfl
  | cons x xs ih =>
    rw [List.mapM_cons, List.mapM_cons, ← ih]
    cases f x with
    | none => rfl
    | some y => cases xs.mapM f <;> cases eq : g y <;> simp [List.mapM_cons, eq]

end LedgerLoop.Library
