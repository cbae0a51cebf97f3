import LedgerLoop.Library.Run

/-!
# Two parties that take locks in an order

Each of two parties takes the locks of a list, one by one, and keeps what it has taken; a lock that the
other holds is waited for. `deadlock_iff` says when both can come to wait: iff they share locks, and the
first lock either shares with the other is not the same one for both.
-/

set_option autoImplicit false

namespace LedgerLoop.Library

inductive Party where
  | one
  | two
deriving DecidableEq, Repr

def Party.other : Party → Party
  | .one => .two
  | .two => .one

@[simp] lemma Party.other_other (p : Party) : p.other.other = p := by cases p <;> rfl

lemma Party.other_ne (p : Party) : p.other ≠ p := by cases p <;> decide

lemma Party.eq_or (p q : Party) : q = p ∨ q = p.other := by cases p <;> cases q <;> decide

/-- Of each party, the locks it has yet to take and those it holds. -/
structure Locking (α : Type*) where
  left : Party → List α
  held : Party → List α

namespace Locking
variable {α : Type*}

/-- Nothing is held yet. -/
def start (order : Party → List α) : Locking α where
  left := order
  held _ := []

/-- A party takes a lock. -/
def took (d : Locking α) (p : Party) (lock : α) (rest : List α) : Locking α where
  left := Function.update d.left p rest
  held := Function.update d.held p (d.held p ++ [lock])

/-- A party takes its next lock, which the other does not hold. -/
inductive Step : Locking α → Party → Locking α → Prop where
  | take {d : Locking α} {p lock rest} :
    d.left p = lock :: rest →
    lock ∉ d.held p.other →
    Step d p (d.took p lock rest)

/-- The next lock of a party is held by the other. -/
def Waits (d : Locking α) (p : Party) : Prop :=
  ∃ lock rest, d.left p = lock :: rest ∧ lock ∈ d.held p.other

def Deadlocked (d : Locking α) : Prop := ∀ p, d.Waits p

variable {d d' : Locking α} {order : Party → List α} {p q : Party} {lock : α} {rest : List α}

@[simp] lemma took_left : (d.took p lock rest).left p = rest := Function.update_self ..

@[simp] lemma took_held : (d.took p lock rest).held p = d.held p ++ [lock] := Function.update_self ..

lemma took_left_ne (ne : q ≠ p) : (d.took p lock rest).left q = d.left q :=
  Function.update_of_ne ne ..

lemma took_held_ne (ne : q ≠ p) : (d.took p lock rest).held q = d.held q :=
  Function.update_of_ne ne ..

/-- Locks are taken in order, and by one party only. -/
structure Inv (order : Party → List α) (d : Locking α) : Prop where
  split : ∀ p, d.held p ++ d.left p = order p
  disjoint : ∀ p, ∀ lock ∈ d.held p, lock ∉ d.held p.other

lemma Inv.start : Inv order (start order) where
  split _ := rfl
  disjoint := by rintro _ _ ⟨⟩

lemma Step.inv (inv : Inv order d) (st : Step d p d') : Inv order d' := by
  cases st with
  | take next free =>
    rename_i lock rest
    refine ⟨fun q => ?_, fun q a mem => ?_⟩
    · rcases p.eq_or q with rfl | rfl
      · simpa [next] using inv.split q
      · rw [took_held_ne p.other_ne, took_left_ne p.other_ne]
        exact inv.split _
    · rcases p.eq_or q with rfl | rfl
      · rw [took_held_ne q.other_ne]
        rw [took_held] at mem
        rcases List.mem_append.1 mem with old | new
        · exact inv.disjoint q a old
        · exact List.mem_singleton.1 new ▸ free
      · rw [took_held_ne p.other_ne] at mem
        rw [Party.other_other, took_held, List.mem_append, not_or]
        refine ⟨by simpa using inv.disjoint _ a mem, fun new => ?_⟩
        exact free (List.mem_singleton.1 new ▸ mem)

/-- A held lock that is shared follows the first shared one. -/
lemma Inv.first_held [DecidableEq α] (inv : Inv order d) {first : α}
    (shared : (order p).find? (fun a => decide (a ∈ order p.other)) = some first)
    (held : lock ∈ d.held p) (other : lock ∈ order p.other) : first ∈ d.held p := by
  rw [← inv.split p, List.find?_append] at shared
  have found : ((d.held p).find? fun a => decide (a ∈ order p.other)).isSome := by
    rw [List.find?_isSome]
    exact ⟨lock, held, by simpa using other⟩
  obtain ⟨a, eq⟩ := Option.isSome_iff_exists.1 found
  rw [eq] at shared
  obtain rfl := Option.some.inj shared
  exact List.mem_of_find?_eq_some eq

/-- Parties whose first shared lock is the same do not come to wait for each other. -/
lemma Inv.not_deadlocked [DecidableEq α] (inv : Inv order d)
    (same : (order .one).find? (fun a => decide (a ∈ order .two)) =
      (order .two).find? fun a => decide (a ∈ order .one)) : ¬d.Deadlocked := by
  intro waits
  have mem_order (p : Party) {a : α} (mem : a ∈ d.held p) : a ∈ order p :=
    inv.split p ▸ List.mem_append_left _ mem
  have next_order (p : Party) : ∃ a ∈ order p, a ∈ d.held p.other := by
    obtain ⟨a, rest, next, held⟩ := waits p
    exact ⟨a, inv.split p ▸ List.mem_append_right _ (next ▸ List.mem_cons_self), held⟩
  obtain ⟨a, memA, heldA⟩ := next_order .one
  obtain ⟨b, memB, heldB⟩ := next_order .two
  obtain ⟨first, eq⟩ : ∃ first, (order .one).find? (fun a => decide (a ∈ order .two)) = some first := by
    refine Option.isSome_iff_exists.1 (List.find?_isSome.2 ⟨a, memA, ?_⟩)
    simpa using mem_order .two heldA
  have one := @first_held _ d order .one b _ inv first eq heldB memB
  have two := @first_held _ d order .two a _ inv first (same ▸ eq) heldA memA
  exact inv.disjoint .one first one two

/-- A party takes locks that the other does not hold. -/
lemma take_all {locks : List α} (next : d.left p = locks ++ rest)
    (free : ∀ a ∈ locks, a ∉ d.held p.other) :
    ∃ tr d', Run Step d tr d' ∧ d'.left p = rest ∧ d'.held p = d.held p ++ locks ∧
      d'.left p.other = d.left p.other ∧ d'.held p.other = d.held p.other := by
  induction locks generalizing d with
  | nil => exact ⟨[], d, .nil, next, by simp, rfl, rfl⟩
  | cons a locks ih =>
    have step : Step d p (d.took p a (locks ++ rest)) := .take next (free a List.mem_cons_self)
    obtain ⟨tr, d', run, left, held, otherLeft, otherHeld⟩ := @ih (d.took p a (locks ++ rest))
      took_left fun b mem => by
        rw [took_held_ne p.other_ne]
        exact free b (List.mem_cons_of_mem _ mem)
    rw [took_left_ne p.other_ne] at otherLeft
    rw [took_held_ne p.other_ne] at otherHeld
    exact ⟨_, d', run.cons step, left, by rw [held, took_held, List.append_assoc]; rfl, otherLeft,
      otherHeld⟩

/-- A party that has yet to take a lock the other holds comes to wait. -/
lemma reach_wait [DecidableEq α] (next : lock ∈ d.left p) (held : lock ∈ d.held p.other) :
    ∃ tr d', Run Step d tr d' ∧ d'.Waits p ∧ d.held p ⊆ d'.held p ∧
      d'.left p.other = d.left p.other ∧ d'.held p.other = d.held p.other := by
  obtain ⟨a, found⟩ : ∃ a, (d.left p).find? (fun x => decide (x ∈ d.held p.other)) = some a :=
    Option.isSome_iff_exists.1 (List.find?_isSome.2 ⟨lock, next, by simpa using held⟩)
  obtain ⟨heldA, locks, rest, split, free⟩ := List.find?_eq_some_iff_append.1 found
  obtain ⟨tr, d', run, left, mine, otherLeft, otherHeld⟩ := take_all split fun b mem => by
    simpa using free b mem
  refine ⟨tr, d', run, ⟨a, rest, left, ?_⟩, ?_, otherLeft, otherHeld⟩
  · rw [otherHeld]
    simpa using heldA
  · rw [mine]
    exact List.subset_append_left _ _

/-- After the first shared lock of a party come the others. -/
lemma mem_after_first {a b : α} {pre post : List α} (split : order p = pre ++ a :: post)
    (before : ∀ x ∈ pre, x ∉ order p.other) (mem : b ∈ order p) (shared : b ∈ order p.other)
    (ne : b ≠ a) : b ∈ post := by
  rw [split] at mem
  rcases List.mem_append.1 mem with mem | mem
  · exact absurd shared (before b mem)
  · exact (List.mem_cons.1 mem).resolve_left ne

/-- Parties whose first shared locks differ can come to wait for each other. -/
lemma exists_deadlock [DecidableEq α] {a b : α} (ne : a ≠ b)
    (one : (order .one).find? (fun x => decide (x ∈ order .two)) = some a)
    (two : (order .two).find? (fun x => decide (x ∈ order .one)) = some b) :
    ∃ tr d, Run Step (start order) tr d ∧ d.Deadlocked := by
  obtain ⟨sharedA, pre, post, split, before⟩ := List.find?_eq_some_iff_append.1 one
  obtain ⟨sharedB, pre', post', split', before'⟩ := List.find?_eq_some_iff_append.1 two
  simp only [decide_eq_true_eq] at sharedA sharedB
  simp only [Bool.not_eq_true', decide_eq_false_iff_not] at before before'
  have memA : a ∈ order .one := List.mem_of_find?_eq_some one
  have memB : b ∈ order .two := List.mem_of_find?_eq_some two
  -- each party goes on until it has its first shared lock
  obtain ⟨_, d₁, run₁, left₁, held₁, left₂, held₂⟩ := @take_all _ (start order) .one post (pre ++ [a])
    (split.trans (by simp)) (by rintro _ _ ⟨⟩)
  have free : ∀ x ∈ pre' ++ [b], x ∉ d₁.held .one := by
    intro x mem held
    rw [held₁, start, List.nil_append] at held
    rcases List.mem_append.1 mem with mem | mem
    · refine before' x mem (split ▸ ?_)
      rcases List.mem_append.1 held with held | held
      · exact List.mem_append_left _ held
      · exact List.mem_append_right _ (List.mem_singleton.1 held ▸ List.mem_cons_self)
    · obtain rfl := List.mem_singleton.1 mem
      rcases List.mem_append.1 held with held | held
      · exact before x held (split' ▸ List.mem_append_right _ List.mem_cons_self)
      · exact ne (List.mem_singleton.1 held).symm
  obtain ⟨_, d₂, run₂, left₂', held₂', left₁', held₁'⟩ := @take_all _ d₁ .two post' (pre' ++ [b])
    (left₂.trans (split'.trans (by simp))) free
  -- then each comes to a lock of the other
  have sharedOne : b ∈ d₂.left .one := by
    have eq : d₂.left .one = post := left₁'.trans left₁
    rw [eq]
    exact mem_after_first split before sharedB memB ne.symm
  have heldTwo : b ∈ d₂.held .two := by simp [held₂']
  obtain ⟨_, d₃, run₃, waits, grown, left₃, held₃⟩ := @reach_wait _ d₂ .one b _ sharedOne heldTwo
  have sharedTwo : a ∈ d₃.left .two := by
    have eq : d₃.left .two = post' := left₃.trans left₂'
    rw [eq]
    exact mem_after_first split' before' sharedA memA ne
  have heldOne : a ∈ d₃.held .one := by
    refine grown ?_
    have eq : d₂.held .one = d₁.held .one := held₁'
    rw [eq, held₁]
    simp
  obtain ⟨_, d₄, run₄, waits', grown', left₄, held₄⟩ := @reach_wait _ d₃ .two a _ sharedTwo heldOne
  refine ⟨_, d₄, ((run₁.append run₂).append run₃).append run₄, fun p => ?_⟩
  cases p with
  | one =>
    obtain ⟨x, rest, next, held⟩ := waits
    exact ⟨x, rest, left₄.trans next, grown' held⟩
  | two => exact waits'

/-- Two parties can come to wait for each other iff the first lock each shares with the other is not
    the same one. -/
lemma deadlock_iff [DecidableEq α] :
    (∃ tr d, Run Step (start order) tr d ∧ d.Deadlocked) ↔
      (order .one).find? (fun a => decide (a ∈ order .two)) ≠
        (order .two).find? fun a => decide (a ∈ order .one) := by
  constructor
  · rintro ⟨tr, d, run, deadlocked⟩ same
    have inv : Inv order d := run.invariant .start fun inv st => st.inv inv
    exact inv.not_deadlocked same deadlocked
  · intro differ
    have none_of (p : Party) (other : (order p).find? (fun a => decide (a ∈ order p.other)) = none) :
        (order p.other).find? (fun a => decide (a ∈ order p)) = none := by
      simp only [List.find?_eq_none, decide_eq_true_eq] at other ⊢
      exact fun a mem mem' => other a mem' mem
    cases one : (order .one).find? (fun a => decide (a ∈ order .two)) with
    | none => exact absurd (one.trans (none_of .one one).symm) differ
    | some a =>
      cases two : (order .two).find? (fun a => decide (a ∈ order .one)) with
      | none => exact absurd ((none_of .two two).trans two.symm) differ
      | some b => exact exists_deadlock (fun same => differ (by rw [one, two, same])) one two

end Locking
end LedgerLoop.Library
