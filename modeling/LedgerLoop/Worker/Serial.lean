import LedgerLoop.Worker.Stranding

/-!
# Serial runs

`process` and the sweeper's row transaction executed whole, one after the other. A serial step is a
stretch of an interleaved run in which one worker goes through its statements with nobody in between
(`Serial.run`), so what holds of every interleaving holds of serial runs. No insert in such a stretch
loses its partner, because nothing commits between the counterparty query and the insert.
-/

set_option autoImplicit false

namespace LedgerLoop
open LedgerLoop.Library

namespace System
open Persist

/-- A transaction of a serial run. -/
inductive Transaction where
  | process (w : ℕ) (message : IngestMessage) (messageId : Option String) (now : Datetime)
    (draws : Draws)
  | sweepRow (w : ℕ) (waitedAt now : Datetime) (draws : Draws)
  /-- Ingestion, a scan, retention, the closing of an exception, or a worker that stops. -/
  | other (e : Event)

/-- Events that are whole transactions, or none. -/
def Event.isWhole : Event → Bool
  | .openAccount .. | .ingest .. | .scan .. | .abandon .. | .deleteAccount .. | .closeException .. =>
    true
  | .load .. | .find .. | .apply .. | .ack .. | .beginRow .. => false

/-- One transaction of a serial run. -/
inductive Serial (config : MatchConfig) : Sys → Transaction → Sys → Prop where
  | process {s : Sys} {w message messageId now draws store outcome} :
    s.workers w = .idle →
    s.FreshDraws draws →
    MatcherWorker.process s.store message messageId config now draws = .ok (store, outcome) →
    Serial config s (.process w message messageId now draws) (s.commit store)
  | sweepRow {s : Sys} {w candidate rest waitedAt now draws store res} :
    s.workers w = .sweeping (candidate :: rest) →
    s.FreshDraws draws →
    Sweeper.sweepRow s.store candidate config waitedAt now draws = .ok (store, res) →
    Serial config s (.sweepRow w waitedAt now draws) ((s.commit store).setWorker w (.sweeping rest))
  | other {s u : Sys} {e} :
    e.isWhole = true →
    Step config s e u →
    Serial config s (.other e) u

/-- The transaction a serial run goes on with, if it can. -/
def serial (config : MatchConfig) (s : Sys) : Transaction → Option Sys
  | .process w message messageId now draws =>
    match s.workers w with
    | .idle =>
      if s.FreshDraws draws then
        match MatcherWorker.process s.store message messageId config now draws with
        | .ok (store, _) => some (s.commit store)
        | .error _ => none
      else none
    | _ => none
  | .sweepRow w waitedAt now draws =>
    match s.workers w with
    | .sweeping (candidate :: rest) =>
      if s.FreshDraws draws then
        match Sweeper.sweepRow s.store candidate config waitedAt now draws with
        | .ok (store, _) => some ((s.commit store).setWorker w (.sweeping rest))
        | .error _ => none
      else none
    | _ => none
  | .other e => if e.isWhole then step config s e else none

/-- `serial` computes serial steps. -/
lemma Serial.of_serial {config : MatchConfig} {s u : Sys} {tx : Transaction}
    (h : serial config s tx = some u) : Serial config s tx u := by
  cases tx <;> simp only [serial] at h
  case process w message messageId now draws =>
    split at h
    · split_ifs at h with fresh
      split at h
      · obtain rfl := Option.some.inj h
        exact .process ‹_› fresh ‹_›
      · cases h
    · cases h
  case sweepRow w waitedAt now draws =>
    split at h
    · split_ifs at h with fresh
      split at h
      · obtain rfl := Option.some.inj h
        exact .sweepRow ‹_› fresh ‹_›
      · cases h
    · cases h
  case other e =>
    split_ifs at h with whole
    exact .other whole (step_iff.1 h)

/-- The raw row a transaction is for: the row its message names, or the row it sweeps. -/
def Transaction.IsFor (s : Sys) (side : IngestSource) (rowId : ℕ) : Transaction → Prop
  | .process _ message .. => message.source = side ∧ message.rowId = rowId
  | .sweepRow w .. => ∃ candidate rest, s.workers w = .sweeping (candidate :: rest) ∧
      candidate.side = side ∧ candidate.rowId = rowId
  | .other _ => False

/-- A transaction that processes the first receipt of a stored row. -/
def Transaction.IsFirstReceipt (s : Sys) (side : IngestSource) (rowId : ℕ) : Transaction → Prop
  | .process _ message .. =>
    FirstReceipt message side rowId ∧ s.store.hasRaw side rowId = true
  | _ => False

section
variable {config : MatchConfig} {s u : Sys} {tx : Transaction}

@[simp] lemma setWorker_setWorker {w : ℕ} {a b : Activity} :
    (s.setWorker w a).setWorker w b = s.setWorker w b := by
  simp [Sys.setWorker]

@[simp] lemma setWorker_workers {w : ℕ} {a : Activity} : (s.setWorker w a).workers w = a := by
  simp [Sys.setWorker]

/-- A worker that ends as it began leaves no trace. -/
lemma setWorker_same {w : ℕ} {a : Activity} (eq : s.workers w = a) : s.setWorker w a = s := by
  subst eq
  simp [Sys.setWorker]

lemma commit_setWorker {w : ℕ} {a : Activity} {store : Store} :
    (s.setWorker w a).commit store = (s.commit store).setWorker w a := rfl

/-- The partner a decision is for was pending at the query. -/
lemma partner_pending {candidate decision found}
    (query : findCounterparties s.store candidate config = .ok found)
    (decided : Core.decide candidate found config = some decision) {id : ℕ}
    (ref : decision.rowId candidate.side.other = some id) :
    ¬s.Taken candidate.side.other id := by
  obtain ⟨best, mem, status, layer, _, rfl, _⟩ := Core.decide_spec decided
  obtain ⟨row, memRow, pending, _, _, _, rfl⟩ := (mem_findCounterparties query).1 mem
  rw [Core.pairDecision_rowId.2] at ref
  intro taken
  simp [taken row memRow (Option.some.inj ref)] at pending

/-- A worker that returned goes back to where it was. -/
lemma ack_step {w : ℕ} {m : IngestMessage} {found : Bool} (idle : s.workers w = .idle) :
    Step config (s.setWorker w (.returned m found)) (.ack w) s := by
  have ack : Step config (s.setWorker w (.returned m found)) (.ack w) _ := .ack setWorker_workers
  rwa [setWorker_setWorker, setWorker_same idle] at ack

/-- A worker that decided commits its decision. -/
lemma apply_step {w job candidate decision sides now draws store res} (fresh : s.FreshDraws draws)
    (ok : MatcherWorker.persist s.store candidate decision sides job.messageId now draws =
      .ok (store, res)) :
    Step config (s.setWorker w (.writing job candidate decision sides)) (.apply w now draws)
      ((s.commit store).setWorker w job.done) := by
  have apply_ : Step config (s.setWorker w (.writing job candidate decision sides)) (.apply w now draws)
      _ := .apply setWorker_workers fresh ok
  rwa [commit_setWorker, setWorker_setWorker] at apply_

/-- A worker that reads its counterparties. -/
lemma find_step {w job candidate found now}
    (query : findCounterparties s.store candidate config = .ok found) :
    Step config (s.setWorker w (.reading job candidate)) (.find w found now)
      (s.setWorker w (afterFind job candidate found config now)) := by
  have find : Step config (s.setWorker w (.reading job candidate)) (.find w found now) _ :=
    .find setWorker_workers query (.refl _)
  rwa [setWorker_setWorker] at find

/-- The insert of a job whose decision is a duplicate marker, or was taken in the same state. -/
lemma unraced_apply {w m messageId candidate decision sides now draws}
    (h : m.isDuplicate = true ∨
      ∀ id ∈ decision.rowId candidate.side.other, ¬s.Taken candidate.side.other id) :
    Unraced (s.setWorker w (.writing (.message m messageId) candidate decision sides))
      (.apply w now draws) := by
  simp only [Unraced, setWorker_workers]
  rcases h with duplicate | free
  · exact .inl duplicate
  · exact .inr (.inr free)

/-- A serial step is a stretch of an interleaved run without races, in which a first receipt that finds
    its row is acked. -/
theorem Serial.run (st : Serial config s tx u) :
    ∃ tr, Run (Step config) s tr u ∧ (∀ p ∈ tr, Unraced p.1 p.2) ∧
      ∀ side rowId, tx.IsFirstReceipt s side rowId → ∃ p ∈ tr, AckOf p.1 p.2 side rowId := by
  cases st with
  | other whole step =>
    rename_i e
    refine ⟨_, .snoc .nil step, fun p mem => ?_, fun side rowId first => first.elim⟩
    obtain rfl := List.mem_singleton.1 mem
    cases e <;> trivial
  | @sweepRow w candidate rest _ _ _ _ _ sweeping fresh ok =>
    obtain ⟨found, query, persisted⟩ := Sweeper.sweepRow_ok ok
    have begin_ : Step config s (.beginRow w) _ := .beginRow sweeping
    have write : Step config (s.setWorker w (.writing (.sweep rest) candidate _ _)) _ _ :=
      apply_step fresh persisted
    refine ⟨_, .cons begin_ (.cons (find_step query) (.cons write .nil)), ?_, ?_⟩
    · intro p mem
      simp only [List.mem_cons, List.not_mem_nil, or_false] at mem
      rcases mem with rfl | rfl | rfl
      · trivial
      · trivial
      · simp [Unraced, afterFind]
    · exact fun side rowId first => first.elim
  | @process w message messageId now draws store outcome idle fresh ok =>
    have load : Step config s (.load w message messageId) _ := .load idle
    have stored {side rowId} (first : FirstReceipt message side rowId)
        (has : s.store.hasRaw side rowId = true) :
        loadFacts s.store message.source message.rowId ≠ none := by
      obtain ⟨rfl, rfl, _⟩ := first
      obtain ⟨row, mem, idEq⟩ := Store.hasRaw_iff.1 has
      obtain ⟨f, loaded⟩ := loadFacts_isSome mem
      simp [← idEq, loaded]
    rcases MatcherWorker.process_ok ok with ⟨missing, rfl⟩ |
      ⟨candidate, loaded, ⟨duplicate, res, persisted⟩ |
        ⟨original, found, query, ⟨deferred, rfl⟩ | ⟨decision, res, decided, persisted⟩⟩⟩
    · rw [missing] at load
      refine ⟨_, .cons load (.cons (ack_step idle) .nil), ?_, ?_⟩
      · simp [Unraced]
      · rintro side rowId ⟨first, has⟩
        exact absurd missing (stored first has)
    · simp only [loaded, afterLoad, duplicate, if_true] at load
      have write : Step config
          (s.setWorker w (.writing (.message message messageId) candidate _ _)) _ _ :=
        apply_step fresh persisted
      refine ⟨_, .cons load (.cons write (.cons (ack_step idle) .nil)), ?_, ?_⟩
      · intro p mem
        simp only [List.mem_cons, List.not_mem_nil, or_false] at mem
        rcases mem with rfl | rfl | rfl
        · trivial
        · exact unraced_apply (.inl duplicate)
        · trivial
      · rintro side rowId ⟨⟨_, _, first⟩, _⟩
        simp [duplicate] at first
    · simp only [loaded, afterLoad, original, Bool.false_eq_true, if_false] at load
      have find : Step config (s.setWorker w (.reading (.message message messageId) candidate))
          (.find w found now) _ := find_step query
      simp only [afterFind, deferred] at find
      refine ⟨_, .cons load (.cons find (.cons (ack_step idle) .nil)), ?_, ?_⟩
      · simp [Unraced]
      · rintro side rowId ⟨first, _⟩
        exact ⟨(s.setWorker w (.returned message true), .ack w), by simp, w, message, rfl,
          setWorker_workers, first⟩
    · simp only [loaded, afterLoad, original, Bool.false_eq_true, if_false] at load
      have find : Step config (s.setWorker w (.reading (.message message messageId) candidate))
          (.find w found now) _ := find_step query
      simp only [afterFind, decided] at find
      have write : Step config
          (s.setWorker w (.writing (.message message messageId) candidate _ _)) _ _ :=
        apply_step fresh persisted
      refine ⟨_, .cons load (.cons find (.cons write (.cons (ack_step idle) .nil))), ?_, ?_⟩
      · intro p mem
        simp only [List.mem_cons, List.not_mem_nil, or_false] at mem
        rcases mem with rfl | rfl | rfl | rfl
        · trivial
        · trivial
        · exact unraced_apply (.inr fun id ref => partner_pending query decided ref)
        · trivial
      · rintro side rowId ⟨first, _⟩
        exact ⟨((s.commit store).setWorker w (.returned message true), .ack w), by simp [Job.done],
          w, message, rfl, setWorker_workers, first⟩

/-- A serial run is an interleaved run without races, in which every first receipt that found its row
    is acked. -/
theorem Serial.runs {tr : List (Sys × Transaction)} (run : Run (Serial config) Sys.initial tr u) :
    ∃ tr', Run (Step config) Sys.initial tr' u ∧ (∀ p ∈ tr', Unraced p.1 p.2) ∧
      ∀ side rowId, (∃ p ∈ tr, p.2.IsFirstReceipt p.1 side rowId) →
        ∃ p ∈ tr', AckOf p.1 p.2 side rowId := by
  induction run with
  | nil => exact ⟨[], .nil, by simp, by simp⟩
  | snoc _ st ih =>
    obtain ⟨tr₁, run₁, unraced₁, acked₁⟩ := ih
    obtain ⟨tr₂, run₂, unraced₂, acked₂⟩ := st.run
    refine ⟨tr₁ ++ tr₂, run₁.append run₂, fun p mem => ?_, ?_⟩
    · exact (List.mem_append.1 mem).elim (unraced₁ p) (unraced₂ p)
    · rintro side rowId ⟨p, mem, first⟩
      rcases List.mem_append.1 mem with old | new
      · obtain ⟨q, memQ, ack⟩ := acked₁ side rowId ⟨p, old, first⟩
        exact ⟨q, List.mem_append_left _ memQ, ack⟩
      · obtain rfl := List.mem_singleton.1 new
        obtain ⟨q, memQ, ack⟩ := acked₂ side rowId first
        exact ⟨q, List.mem_append_right _ memQ, ack⟩

end

end System
end LedgerLoop
