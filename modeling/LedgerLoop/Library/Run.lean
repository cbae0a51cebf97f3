import Mathlib.Tactic

/-!
# Runs of a labelled transition relation

A system is a relation `step : σ → ε → σ → Prop` between states, labelled by events. A `Run` is a
finite sequence of steps together with the state each event happened in, so that a property of "every
interleaving" is a property of every run, and a side condition on a schedule is a condition on the
pairs `(t, e)` of its trace.

The rules below package the inductions over runs once: `Run.invariant` for what every step preserves,
`Run.invariant_within` for what a step preserves as long as the trace meets a side condition, and
`Run.purge` for comparing a run with what is left of it when the steps of other parties are removed.
-/

set_option autoImplicit false

namespace LedgerLoop.Library

variable {σ ε : Type*} {step : σ → ε → σ → Prop}

/-- A run from `s`: the trace of (state, event) pairs and the state reached. -/
inductive Run (step : σ → ε → σ → Prop) (s : σ) : List (σ × ε) → σ → Prop where
  | nil : Run step s [] s
  | snoc {tr t e u} : Run step s tr t → step t e u → Run step s (tr ++ [(t, e)]) u

/-- What holds initially and is preserved by every step holds in the state reached. -/
lemma Run.invariant {I : σ → Prop} {s tr u}
    (run : Run step s tr u) (init : I s)
    (pres : ∀ {t e v}, I t → step t e v → I v) : I u := by
  induction run with
  | nil => exact init
  | snoc _ st ih => exact pres ih st

/-- Every state of the trace is itself reached by a run from the same start. -/
lemma Run.split {s tr u} (run : Run step s tr u) {t e} (mem : (t, e) ∈ tr) :
    ∃ tr0 tr1 v, tr = tr0 ++ (t, e) :: tr1 ∧ Run step s tr0 t ∧ step t e v ∧ Run step v tr1 u := by
  induction run with
  | nil => cases mem
  | @snoc tr t' e' u run st ih =>
    rcases List.mem_append.1 mem with mem | mem
    · obtain ⟨tr0, tr1, v, eq, run0, st0, run1⟩ := ih mem
      exact ⟨tr0, tr1 ++ [(t', e')], v, by simp [eq], run0, st0, run1.snoc st⟩
    · obtain ⟨rfl, rfl⟩ := Prod.mk.inj (List.mem_singleton.1 mem)
      exact ⟨tr, [], u, rfl, run, st, .nil⟩

/-- A run splits at each of its steps. -/
lemma Run.split_append {s u t e} {tr0 tr1 : List (σ × ε)}
    (run : Run step s (tr0 ++ (t, e) :: tr1) u) :
    ∃ v, Run step s tr0 t ∧ step t e v ∧ Run step v tr1 u := by
  generalize eq : tr0 ++ (t, e) :: tr1 = tr at run
  induction run generalizing tr1 with
  | nil => simp at eq
  | @snoc tr t' e' u run st ih =>
    rcases List.eq_nil_or_concat tr1 with rfl | ⟨init, last, rfl⟩
    · obtain ⟨rfl, same⟩ := List.append_inj' eq rfl
      obtain ⟨rfl, rfl⟩ := Prod.mk.inj (List.singleton_inj.1 same)
      exact ⟨u, run, st, .nil⟩
    · rw [List.concat_eq_append, ← List.cons_append, ← List.append_assoc] at eq
      obtain ⟨rfl, same⟩ := List.append_inj' eq rfl
      obtain rfl := List.singleton_inj.1 same
      obtain ⟨v, run0, st0, run1⟩ := ih rfl
      exact ⟨v, run0, st0, List.concat_eq_append ▸ run1.snoc st⟩

lemma Run.of_nil {s u} (run : Run step s [] u) : s = u := by
  generalize eq : ([] : List (σ × ε)) = tr at run
  cases run with
  | nil => rfl
  | snoc => simp at eq

/-- The first event of a run happens where the run starts. -/
lemma Run.of_cons {s t u e} {tr : List (σ × ε)} (run : Run step s ((t, e) :: tr) u) :
    s = t ∧ ∃ v, step t e v ∧ Run step v tr u := by
  rw [← List.nil_append ((t, e) :: tr)] at run
  obtain ⟨v, run0, st, run1⟩ := run.split_append
  exact ⟨run0.of_nil, v, st, run1⟩

/-- A relation that is reflexive, transitive and kept by every step relates the ends of a run. -/
lemma Run.grows {R : σ → σ → Prop} {s tr u}
    (run : Run step s tr u) (refl : ∀ t, R t t) (trans : ∀ {a b c}, R a b → R b c → R a c)
    (pres : ∀ {t e v}, step t e v → R t v) : R s u := by
  induction run with
  | nil => exact refl _
  | snoc _ st ih => exact trans ih (pres st)

/-- A relation that is reflexive, transitive and kept by every step relates every state of the trace
    to the state reached. -/
lemma Run.grows_from {R : σ → σ → Prop} {s tr u}
    (run : Run step s tr u) (refl : ∀ t, R t t) (trans : ∀ {a b c}, R a b → R b c → R a c)
    (pres : ∀ {t e v}, step t e v → R t v) : ∀ p ∈ tr, R p.1 u := by
  rintro ⟨t, e⟩ mem
  obtain ⟨_, _, _, _, _, st, run1⟩ := run.split mem
  exact trans (pres st) (run1.grows refl trans pres)

/-- Invariant rule with side conditions: `P` restricts the events of the trace and `Q` the states it
    passes through; both are available when a step is shown to preserve `I`. -/
lemma Run.invariant_within {I Q : σ → Prop} {P : σ → ε → Prop} {s tr u}
    (run : Run step s tr u) (init : I s)
    (events : ∀ p ∈ tr, P p.1 p.2) (states : ∀ p ∈ tr, Q p.1) (last : Q u)
    (pres : ∀ {t e v}, I t → P t e → Q t → Q v → step t e v → I v) : I u := by
  induction run with
  | nil => exact init
  | @snoc tr t e u _ st ih =>
    have mem : (t, e) ∈ tr ++ [(t, e)] := by simp
    have before : I t := ih (fun p h => events p (by simp [h]))
      (fun p h => states p (by simp [h])) (states _ mem)
    exact pres before (events _ mem) (states _ mem) last st

/-- A run whose events all meet `P` is a run of the steps that do. -/
lemma Run.restrict {P : σ → ε → Prop} {s tr u} (run : Run step s tr u)
    (events : ∀ p ∈ tr, P p.1 p.2) : Run (fun s e t => step s e t ∧ P s e) s tr u := by
  induction run with
  | nil => exact .nil
  | @snoc tr t e u _ st ih =>
    exact (ih fun p mem => events p (by simp [mem])).snoc ⟨st, events (t, e) (by simp)⟩

/-- Runs compose. -/
lemma Run.append {s t u : σ} {tr tr'} (run : Run step s tr t) (run' : Run step t tr' u) :
    Run step s (tr ++ tr') u := by
  induction run' with
  | nil => simpa using run
  | snoc _ st ih => simpa using ih.snoc st

/-- Execute events with a step function, keeping the trace. -/
def replay (next : σ → ε → Option σ) (s : σ) : List ε → Option (List (σ × ε) × σ)
  | [] => some ([], s)
  | e :: es => (next s e).bind fun t => (replay next t es).map fun (tr, u) => ((s, e) :: tr, u)

lemma Run.cons {s t u : σ} {e tr} (st : step s e t) (run : Run step t tr u) :
    Run step s ((s, e) :: tr) u := by
  induction run with
  | nil => exact .snoc .nil st
  | snoc _ st' ih => exact ih.snoc st'

/-- Executing a sound step function yields a run. -/
lemma Run.of_replay {next : σ → ε → Option σ} (sound : ∀ {s e t}, next s e = some t → step s e t)
    {s u : σ} {es tr} (h : replay next s es = some (tr, u)) : Run step s tr u := by
  induction es generalizing s tr with
  | nil =>
    obtain ⟨rfl, rfl⟩ := Prod.mk.inj (Option.some.inj h)
    exact .nil
  | cons e es ih =>
    simp only [replay, Option.bind_eq_some_iff, Option.map_eq_some_iff] at h
    obtain ⟨t, head, ⟨tr', u'⟩, tail, eq⟩ := h
    obtain ⟨rfl, rfl⟩ := Prod.mk.inj eq
    exact (ih tail).cons (sound head)

/-- The trace lists the events that were executed. -/
lemma events_of_replay {next : σ → ε → Option σ} {s u : σ} {es tr}
    (h : replay next s es = some (tr, u)) : tr.map Prod.snd = es := by
  induction es generalizing s tr with
  | nil =>
    obtain ⟨rfl, rfl⟩ := Prod.mk.inj (Option.some.inj h)
    rfl
  | cons e es ih =>
    simp only [replay, Option.bind_eq_some_iff, Option.map_eq_some_iff] at h
    obtain ⟨t, _, ⟨tr', u'⟩, tail, eq⟩ := h
    obtain ⟨rfl, rfl⟩ := Prod.mk.inj eq
    rw [List.map_cons, ih tail]

/-- A run seen by one party: if a relation between the states of two systems is matched step by step
    at the events `mine` selects and kept at all others, a run of the first system is followed by one
    of the second that does the selected events only. -/
lemma Run.purge {σ' ε' : Type*} {step' : σ' → ε' → σ' → Prop} {R : σ → σ' → Prop}
    {mine : σ × ε → Bool} {E : σ × ε → σ' × ε' → Prop} {P : σ × ε → Prop} {s tr u s'}
    (run : Run step s tr u) (init : R s s') (events : ∀ p ∈ tr, P p)
    (matched : ∀ {t e v t'}, R t t' → P (t, e) → mine (t, e) = true → step t e v →
      ∃ e' v', step' t' e' v' ∧ E (t, e) (t', e') ∧ R v v')
    (kept : ∀ {t e v t'}, R t t' → P (t, e) → mine (t, e) = false → step t e v → R v t') :
    ∃ tr' u', Run step' s' tr' u' ∧ List.Forall₂ E (tr.filter mine) tr' ∧ R u u' := by
  induction run with
  | nil => exact ⟨[], s', .nil, .nil, init⟩
  | @snoc tr t e u _ st ih =>
    obtain ⟨tr', t', run', same, rel⟩ := ih fun p mem => events p (by simp [mem])
    have here : P (t, e) := events _ (by simp)
    cases own : mine (t, e) with
    | true =>
      obtain ⟨e', v', st', pair, rel'⟩ := matched rel here own st
      refine ⟨tr' ++ [(t', e')], v', run'.snoc st', ?_, rel'⟩
      rw [List.filter_append, List.filter_singleton, own]
      exact List.rel_append same (.cons pair .nil)
    | false =>
      refine ⟨tr', t', run', ?_, kept rel here own st⟩
      simpa [own] using same

end LedgerLoop.Library
