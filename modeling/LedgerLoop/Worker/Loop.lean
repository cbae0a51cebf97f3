import LedgerLoop.Worker.Persist

/-!
# The matcher's transaction

Port of `MatcherWorker.process` in `worker/loop.py`: read the candidate, read its counterparties unless
the message is a duplicate, decide, persist. The outcome keeps what the caller acts on; durations and
log lines are left out.

`persist` is the last statement group of `process` and of the sweeper's row transaction: the latency of
the sides a decision is about, then `applyDecision` on the candidate's tenant.
-/

set_option autoImplicit false

namespace LedgerLoop
open LedgerLoop.Library

/-- `ProcessOutcome`. -/
structure ProcessOutcome where
  decision : Option Decision
  written : Bool
  latencyMs : Option ℤ
deriving DecidableEq, Repr

namespace MatcherWorker
open Persist

/-- `sides`: the candidate, and the counterparty a decision pairs it with. -/
def sidesOf (candidate : TxnFacts) (counterparties : List TxnFacts) (decision : Decision) :
    List TxnFacts :=
  candidate :: counterparties.filter fun f => some f.rowId == decision.rowId candidate.side.other

/-- Latency, then `apply_decision`. -/
def persist (s : Store) (candidate : TxnFacts) (decision : Decision) (sides : List TxnFacts)
    (messageId : Option String) (now : Datetime) (draws : Draws) :
    Except PyError (Store × PersistResult) :=
  applyDecision s decision candidate.tenantId (some (computeLatencyMs decision sides now)) messageId
    draws

/-- A call that leaves without writing: the row is gone, or its counterparty has not arrived. -/
def ProcessOutcome.deferred : ProcessOutcome :=
  { decision := none, written := false, latencyMs := none }

/-- `process`. -/
def process (s : Store) (message : IngestMessage) (messageId : Option String)
    (config : MatchConfig) (now : Datetime) (draws : Draws) :
    Except PyError (Store × ProcessOutcome) :=
  match loadFacts s message.source message.rowId with
  | none => .ok (s, ProcessOutcome.deferred)
  | some candidate =>
    if message.isDuplicate then
      write candidate (Core.decideDuplicate candidate message.submissions) [candidate]
    else do
      let counterparties ← findCounterparties s candidate config
      match Core.decide candidate counterparties config with
      | none => .ok (s, ProcessOutcome.deferred)
      | some decision => write candidate decision (sidesOf candidate counterparties decision)
where
  /-- Persist a decision and report it. -/
  write (candidate : TxnFacts) (decision : Decision) (sides : List TxnFacts) :
      Except PyError (Store × ProcessOutcome) := do
    let (s', persisted) ← persist s candidate decision sides messageId now draws
    .ok (s', { decision := some decision, written := persisted.written
               latencyMs := some (computeLatencyMs decision sides now) })

/-- What a call that returned did: it left without writing, or it persisted the decision it took. -/
lemma process_ok {s s' : Store} {message : IngestMessage} {messageId config now draws outcome}
    (ok : process s message messageId config now draws = .ok (s', outcome)) :
    (loadFacts s message.source message.rowId = none ∧ s' = s) ∨
      ∃ candidate, loadFacts s message.source message.rowId = some candidate ∧
        ((message.isDuplicate = true ∧ ∃ res,
            persist s candidate (Core.decideDuplicate candidate message.submissions) [candidate]
              messageId now draws = .ok (s', res)) ∨
          (message.isDuplicate = false ∧ ∃ counterparties,
            findCounterparties s candidate config = .ok counterparties ∧
            ((Core.decide candidate counterparties config = none ∧ s' = s) ∨
              ∃ decision res, Core.decide candidate counterparties config = some decision ∧
                persist s candidate decision (sidesOf candidate counterparties decision) messageId
                  now draws = .ok (s', res)))) := by
  have written {candidate decision sides}
      (ok : process.write s messageId now draws candidate decision sides = .ok (s', outcome)) :
      ∃ res, persist s candidate decision sides messageId now draws = .ok (s', res) := by
    simp only [process.write, bind, Except.bind] at ok
    split at ok
    · cases ok
    · rename_i persisted eq
      obtain ⟨rfl, _⟩ := Prod.mk.inj (Except.ok.inj ok)
      exact ⟨_, eq⟩
  cases loaded : loadFacts s message.source message.rowId with
  | none =>
    simp only [process, loaded] at ok
    exact .inl ⟨rfl, (Prod.mk.inj (Except.ok.inj ok)).1.symm⟩
  | some candidate =>
    refine .inr ⟨candidate, rfl, ?_⟩
    simp only [process, loaded] at ok
    cases duplicate : message.isDuplicate with
    | true =>
      simp only [duplicate, if_true] at ok
      exact .inl ⟨rfl, written ok⟩
    | false =>
      simp only [duplicate, Bool.false_eq_true, if_false, bind, Except.bind] at ok
      refine .inr ⟨rfl, ?_⟩
      cases query : findCounterparties s candidate config with
      | error e => simp [query] at ok
      | ok counterparties =>
        simp only [query] at ok
        refine ⟨counterparties, rfl, ?_⟩
        cases decided : Core.decide candidate counterparties config with
        | none =>
          simp only [decided] at ok
          exact .inl ⟨rfl, (Prod.mk.inj (Except.ok.inj ok)).1.symm⟩
        | some decision =>
          simp only [decided] at ok
          obtain ⟨res, eq⟩ := written ok
          exact .inr ⟨decision, res, rfl, eq⟩

end MatcherWorker
end LedgerLoop
