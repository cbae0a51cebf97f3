import LedgerLoop.Library.Run
import Mathlib.Data.Nat.Nth

/-!
# Numbers drawn from a shared sequence

Several parties draw consecutive numbers from one sequence. Left alone, one of them would have drawn
smaller numbers, with no gaps. `exists_numbering` gives, for a whole run, the strictly monotone map `ρ`
from the numbers a party would draw alone to those it draws in company.

`Cut ρ n n'` says that `n` in company corresponds to `n'` alone: the own numbers below `n` are those
numbered below `n'`. It is kept by what others draw (`Cut.skip`), and moves along with what the party
itself draws (`Cut.own`).
-/

set_option autoImplicit false

namespace LedgerLoop.Library

/-- Exactly the own numbers below `n` are numbered below `n'`. -/
def Cut (ρ : ℕ → ℕ) (n n' : ℕ) : Prop := ∀ k, ρ k < n ↔ k < n'

section
variable {ρ : ℕ → ℕ} {n n' m : ℕ}

/-- Every number cuts a numbering somewhere. -/
lemma exists_cut (mono : StrictMono ρ) (n : ℕ) : ∃ n', Cut ρ n n' := by
  classical
  have above : ∃ k, n ≤ ρ k := ⟨n, mono.le_apply⟩
  refine ⟨Nat.find above, fun k => ?_⟩
  rw [Nat.lt_find_iff]
  constructor
  · intro below j le
    have : ρ j ≤ ρ k := mono.monotone le
    omega
  · intro below
    have := below k le_rfl
    omega

/-- A number that is the party's own is the next in its numbering. -/
lemma Cut.apply_eq (cut : Cut ρ n n') (mono : StrictMono ρ) (own : n ∈ Set.range ρ) : ρ n' = n := by
  obtain ⟨k, rfl⟩ := own
  have not_below : ¬k < n' := fun lt => lt_irrefl _ ((cut k).2 lt)
  have not_above : ¬n' < k := fun lt => lt_irrefl _ ((cut n').1 (mono lt))
  rw [show n' = k by omega]

lemma Cut.succ (cut : Cut ρ n n') (mono : StrictMono ρ) (own : n ∈ Set.range ρ) :
    Cut ρ (n + 1) (n' + 1) := by
  intro k
  have here := cut.apply_eq mono own
  rw [Nat.lt_succ_iff, Nat.lt_succ_iff]
  calc ρ k ≤ n ↔ ρ k ≤ ρ n' := by rw [here]
    _ ↔ k ≤ n' := mono.le_iff_le

/-- What the party draws moves the cut along. -/
lemma Cut.own (cut : Cut ρ n n') (mono : StrictMono ρ)
    (own : ∀ i < m, n + i ∈ Set.range ρ) : Cut ρ (n + m) (n' + m) := by
  induction m with
  | zero => exact cut
  | succ m ih =>
    have before := ih fun i lt => own i (by omega)
    exact before.succ mono (own m (by omega))

/-- The `i`-th number the party draws is the `i`-th it would draw alone. -/
lemma Cut.apply_add (cut : Cut ρ n n') (mono : StrictMono ρ)
    (own : ∀ i < m, n + i ∈ Set.range ρ) {i : ℕ} (lt : i < m) : ρ (n' + i) = n + i := by
  have before : Cut ρ (n + i) (n' + i) := cut.own mono fun j lt' => own j (by omega)
  exact before.apply_eq mono (own i lt)

/-- What others draw leaves the cut where it is. -/
lemma Cut.skip (cut : Cut ρ n n') (foreign : ∀ i < m, n + i ∉ Set.range ρ) :
    Cut ρ (n + m) n' := by
  intro k
  rw [← cut k]
  constructor
  · intro lt
    by_contra le
    refine foreign (ρ k - n) (by omega) ⟨k, ?_⟩
    omega
  · omega

end

section
variable {σ ε : Type*} {step : σ → ε → σ → Prop} {c : σ → ℕ} {s u : σ} {tr : List (σ × ε)}

/-- `D` holds of the numbers below the start, of those the events `mine` selects draw, and of those
    not drawn by the end of the run. -/
structure Drawn (step : σ → ε → σ → Prop) (c : σ → ℕ) (mine : σ × ε → Prop) (s : σ)
    (tr : List (σ × ε)) (u : σ) (D : ℕ → Prop) : Prop where
  before : ∀ x < c s, D x
  after : ∀ x, c u ≤ x → D x
  during : ∀ t e v, (t, e) ∈ tr → step t e v →
    c v ≤ c u ∧ ∀ x, c t ≤ x → x < c v → (D x ↔ mine (t, e))

/-- The numbers a party draws in a run. -/
lemma exists_drawn (run : Run step s tr u) (mine : σ × ε → Prop)
    (mono : ∀ {t e v}, step t e v → c t ≤ c v)
    (det : ∀ {t e v v'}, step t e v → step t e v' → v = v') :
    ∃ D, Drawn step c mine s tr u D := by
  induction run with
  | nil => exact ⟨fun _ => True, fun _ _ => trivial, fun _ _ => trivial, by rintro _ _ _ ⟨⟩⟩
  | @snoc tr t e u run st ih =>
    obtain ⟨D, drawn⟩ := ih
    have start : c s ≤ c t :=
      Run.grows (R := fun a b => c a ≤ c b) run (fun _ => le_rfl) le_trans mono
    have le := mono st
    refine ⟨fun x => if x < c t then D x else x < c u → mine (t, e), ?_, ?_, ?_⟩
    · intro x lt
      rw [if_pos (by omega)]
      exact drawn.before x lt
    · intro x ge
      rw [if_neg (by omega)]
      exact fun lt => absurd ge (by omega)
    · intro t' e' v mem st'
      rcases List.mem_append.1 mem with old | new
      · obtain ⟨top, own⟩ := drawn.during t' e' v old st'
        refine ⟨top.trans le, fun x ge lt => ?_⟩
        rw [if_pos (by omega)]
        exact own x ge lt
      · obtain ⟨rfl, rfl⟩ := Prod.mk.inj (List.mem_singleton.1 new)
        obtain rfl := det st st'
        refine ⟨le_rfl, fun x ge lt => ?_⟩
        rw [if_neg (by omega)]
        exact ⟨fun own => own lt, fun own _ => own⟩

/-- `ρ` numbers what the events `mine` selects draw from the sequence `c` in a run. -/
structure Numbering (step : σ → ε → σ → Prop) (c : σ → ℕ) (mine : σ × ε → Prop) (s : σ)
    (tr : List (σ × ε)) (u : σ) (ρ : ℕ → ℕ) : Prop where
  mono : StrictMono ρ
  start : Cut ρ (c s) (c s)
  during : ∀ t e v, (t, e) ∈ tr → step t e v →
    c v ≤ c u ∧ ∀ x, c t ≤ x → x < c v → (x ∈ Set.range ρ ↔ mine (t, e))

/-- Every party's draws have a numbering. -/
lemma exists_numbering (run : Run step s tr u) (mine : σ × ε → Prop)
    (mono : ∀ {t e v}, step t e v → c t ≤ c v)
    (det : ∀ {t e v v'}, step t e v → step t e v' → v = v') :
    ∃ ρ, Numbering step c mine s tr u ρ := by
  classical
  obtain ⟨D, drawn⟩ := exists_drawn run mine mono det
  have infinite : (Set.ofPred D).Infinite := by
    refine Set.infinite_of_not_bddAbove ?_
    rintro ⟨b, bound⟩
    have mem : c u + b + 1 ∈ Set.ofPred D := drawn.after _ (by omega)
    have := bound mem
    omega
  have range {x : ℕ} : x ∈ Set.range (Nat.nth D) ↔ D x := by
    rw [Nat.range_nth_of_infinite infinite]
    exact Iff.rfl
  refine ⟨Nat.nth D, Nat.nth_strictMono infinite, fun k => ?_, fun t e v mem st => ?_⟩
  · have full : Nat.count D (c s) = c s := Nat.count_iff_forall.2 drawn.before
    rw [← not_le, ← Nat.count_le_iff_le_nth infinite, full, not_le]
  · obtain ⟨top, own⟩ := drawn.during t e v mem st
    refine ⟨top, fun x ge lt => ?_⟩
    rw [range]
    exact own x ge lt

end

end LedgerLoop.Library
