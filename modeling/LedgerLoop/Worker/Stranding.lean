import LedgerLoop.Worker.Invariant

/-!
# Pairs left behind

`process` acks a message whether its insert was written or refused. A refusal that stems from the
candidate means that the candidate is decided; one that stems from the chosen partner only leaves the
candidate pending, although another counterparty may be there for it. `Unraced` excludes the second
kind, and in the runs without it no viable pair is left once every first receipt is acked: a call that
defers saw no viable partner, and a call that writes leaves no pending candidate.
-/

set_option autoImplicit false

namespace LedgerLoop
open LedgerLoop.Library

namespace System
open Persist

/-- A first-receipt message of a raw row. -/
def FirstReceipt (m : IngestMessage) (side : IngestSource) (rowId : ℕ) : Prop :=
  m.source = side ∧ m.rowId = rowId ∧ m.isDuplicate = false

/-- The call for a row's first receipt found the row, returned, and is acked at this event. -/
def AckOf (s : Sys) (e : Event) (side : IngestSource) (rowId : ℕ) : Prop :=
  ∃ w m, e = .ack w ∧ s.workers w = .returned m true ∧ FirstReceipt m side rowId

/-- Every row's first receipt is acked, and nothing is in flight. -/
def Drained (tr : List (Sys × Event)) (u : Sys) : Prop :=
  (∀ side, ∀ row ∈ u.store.raw side, ∃ p ∈ tr, AckOf p.1 p.2 side row.id) ∧
    ∀ w, u.workers w = .idle

/-- No pending gateway row and pending ledger row form a viable pair. -/
def NoneLeftBehind (config : MatchConfig) (u : Sys) : Prop :=
  ∀ g ∈ u.store.raw .gateway, ∀ l ∈ u.store.raw .ledger, g.pending = true → l.pending = true →
    Core.classifyPair (facts g .gateway) (facts l .ledger) config = none

/-- When a first receipt's call inserts, its candidate is taken or its chosen partner is not. -/
def Unraced (s : Sys) : Event → Prop
  | .apply w _ _ =>
    match s.workers w with
    | .writing (.message m _) candidate decision _ =>
      m.isDuplicate = true ∨ s.Taken candidate.side candidate.rowId ∨
        ∀ id ∈ decision.rowId candidate.side.other, ¬s.Taken candidate.side.other id
    | _ => True
  | _ => True

instance (s : Sys) (e : Event) : Decidable (Unraced s e) := by
  unfold Unraced
  split
  · split <;> infer_instance
  · infer_instance

/-- The candidate in a matcher's hands is the row its message names, and a first receipt's decision
    pairs it with a partner. -/
def Activity.Linked (config : MatchConfig) (drawn : IngestSource → List ℕ) : Activity → Prop
  | .reading (.message m _) candidate =>
    FirstReceipt m candidate.side candidate.rowId
  | .writing (.message m _) candidate decision _ =>
    m.source = candidate.side ∧ m.rowId = candidate.rowId ∧
      (m.isDuplicate = false → ∃ partner status layer,
        Core.classifyPair candidate partner config = some (status, layer) ∧
        decision = Core.pairDecision candidate partner status layer config)
  | .returned m true => m.rowId ∈ drawn m.source
  | _ => True

/-- The first receipt of a row has been processed: acked, or about to be. -/
def Attempted (tr : List (Sys × Event)) (s : Sys) (side : IngestSource) (rowId : ℕ) : Prop :=
  (∃ p ∈ tr, AckOf p.1 p.2 side rowId) ∨
    ∃ w m, s.workers w = .returned m true ∧ FirstReceipt m side rowId

section
variable {config : MatchConfig} {s u : Sys} {e : Event} {tr : List (Sys × Event)}

lemma Activity.Linked.mono {drawn drawn' : IngestSource → List ℕ} {a : Activity}
    (le : ∀ side, ∀ id ∈ drawn side, id ∈ drawn' side) (h : a.Linked config drawn) :
    a.Linked config drawn' := by
  match a with
  | .idle | .sweeping _ | .returned _ false => trivial
  | .returned m true => exact le _ _ h
  | .reading (.message ..) _ => exact h
  | .reading (.sweep _) _ => trivial
  | .writing (.message ..) .. => exact h
  | .writing (.sweep _) .. => trivial

/-- What a worker holds after `load_facts` is linked. -/
lemma linked_afterLoad {m : IngestMessage} {messageId : Option String} :
    (afterLoad m messageId (loadFacts s.store m.source m.rowId)).Linked config s.drawn := by
  cases eq : loadFacts s.store m.source m.rowId with
  | none => trivial
  | some candidate =>
    obtain ⟨row, _, idEq, rfl⟩ := loadFacts_eq_some eq
    simp only [afterLoad]
    split_ifs with duplicate
    · exact ⟨rfl, idEq.symm, fun first => by simp [duplicate] at first⟩
    · exact ⟨rfl, idEq.symm, by simpa using duplicate⟩

/-- What a worker holds after its counterparty query is linked. -/
lemma linked_afterFind {job candidate counterparties now} (kn : s.Knows candidate)
    (h : (Activity.reading job candidate).Linked config s.drawn) :
    (afterFind job candidate counterparties config now).Linked config s.drawn := by
  match job with
  | .sweep _ => trivial
  | .message m messageId =>
    obtain ⟨source, rowId, first⟩ := h
    simp only [afterFind]
    split
    · change m.rowId ∈ s.drawn m.source
      rw [source, rowId]
      exact kn.1
    · obtain ⟨best, _, status, layer, verdict, eq, _⟩ := Core.decide_spec ‹_›
      exact ⟨source, rowId, fun _ => ⟨best, status, layer, verdict, eq⟩⟩

/-- Every step keeps the workers linked. -/
lemma Step.linked (inv : s.Inv config) (linked : ∀ w, (s.workers w).Linked config s.drawn)
    (st : Step config s e u) : ∀ w, (u.workers w).Linked config u.drawn := by
  have mono : ∀ w, (s.workers w).Linked config u.drawn := fun w =>
    (linked w).mono st.extends.drawn
  have update {w : ℕ} {a : Activity} (h : a.Linked config u.drawn) :
      ∀ w', (Function.update s.workers w a w').Linked config u.drawn := by
    intro w'
    by_cases eq : w' = w
    · subst eq
      simpa using h
    · simpa [Function.update_of_ne eq] using mono w'
  cases st with
  | openAccount | ingest | deleteAccount | closeException => exact mono
  | load => exact update linked_afterLoad
  | find reading =>
    rename_i w _ _ _ _ _ _ _
    have kn := inv.workers w
    have link := linked w
    rw [reading] at kn link
    exact update (linked_afterFind kn.1 link)
  | apply writing =>
    rename_i w job candidate _ _ _ _ _ _ _ _
    have kn := inv.workers w
    have link := linked w
    rw [writing] at kn link
    match job, link with
    | .sweep _, _ => exact update trivial
    | .message m _, ⟨source, rowId, _⟩ =>
      refine update ?_
      change m.rowId ∈ s.drawn m.source
      rw [source, rowId]
      exact kn.1.1
  | ack | scan | beginRow | abandon => exact update trivial

/-- A first receipt's insert leaves its candidate taken, unless it lost its partner. -/
lemma taken_of_apply {w now draws m messageId candidate decision sides store res}
    (inv : s.Inv config) (linked : (s.workers w).Linked config s.drawn)
    (unraced : Unraced s (.apply w now draws))
    (writing : s.workers w = .writing (.message m messageId) candidate decision sides)
    (first : m.isDuplicate = false)
    (ok : MatcherWorker.persist s.store candidate decision sides messageId now draws =
      .ok (store, res)) : (s.commit store).Taken candidate.side candidate.rowId := by
  have link := linked
  rw [writing] at link
  obtain ⟨partner, status, layer, verdict, rfl⟩ := link.2.2 first
  have notDuplicate : status ≠ .duplicate := (Core.classifyPair_verdict verdict).ne_duplicate
  obtain ⟨own, _⟩ := @Core.pairDecision_rowId candidate config partner status layer
  obtain ⟨r, eq, ⟨held, rfl⟩ | ⟨_, _, rfl⟩⟩ := persist_ok ok
  · -- refused: one of the two rows is taken, and not only the partner's
    have rawId (side : IngestSource) : r.rawId side =
        (Core.pairDecision candidate partner status layer config).rowId side := by
      subst eq
      cases side <;> rfl
    have active : r.active = true := by
      subst eq
      simpa [ReconciliationResult.active, resultRow, Core.pairDecision] using notDuplicate
    obtain ⟨r', mem, _, active', side, id, ref, ref'⟩ := conflicts_iff.1 held
    have taken : s.Taken side id := inv.taken mem (active'.trans active) ref'
    by_cases same : side = candidate.side
    · subst same
      obtain rfl : candidate.rowId = id := Option.some.inj (own.symm.trans ((rawId _).symm.trans ref))
      exact taken
    · obtain rfl : side = candidate.side.other := IngestSource.eq_other_of_ne (Ne.symm same)
      simp only [Unraced, writing, first, Bool.false_eq_true, false_or] at unraced
      rcases unraced with free | free
      · exact free
      · exact absurd taken (free id ((rawId _).symm.trans ref))
  · intro row mem idEq
    obtain ⟨r0, _, rowEq, done⟩ := Consistent.of_mem_settle mem
    have id0 : r0.id = candidate.rowId := by
      rw [rowEq] at idEq
      exact idEq
    exact done.2 (.inr ⟨notDuplicate, by rw [id0]; exact own⟩)

/-- A row newly attempted is taken, or has no viable partner pending. -/
lemma attempted_step (windows : config.exactWindow ≤ config.driftWindow) (inv : s.Inv config)
    (linked : ∀ w, (s.workers w).Linked config s.drawn) (unraced : Unraced s e)
    (st : Step config s e u) {w m side rowId} (returned : u.workers w = .returned m true)
    (first : FirstReceipt m side rowId) :
    (∃ w m, s.workers w = .returned m true ∧ FirstReceipt m side rowId) ∨ u.Taken side rowId ∨
      (rowId ∈ s.drawn side ∧ ∀ row ∈ s.store.raw side, row.id = rowId →
        ∀ row' ∈ s.store.raw side.other, row'.pending = true →
          Core.classifyPair (facts row side) (facts row' side.other) config = none) := by
  have before (same : u.workers w = s.workers w) :
      ∃ w m, s.workers w = .returned m true ∧ FirstReceipt m side rowId :=
    ⟨w, m, same ▸ returned, first⟩
  have update {w' : ℕ} {a : Activity} (workers : u.workers = Function.update s.workers w' a) :
      u.workers w = s.workers w ∨ (w = w' ∧ a = .returned m true) := by
    by_cases eq : w = w'
    · subst eq
      exact .inr ⟨rfl, by simpa [workers] using returned⟩
    · exact .inl (by simp [workers, Function.update_of_ne eq])
  cases st with
  | openAccount | ingest | deleteAccount | closeException => exact .inl (before rfl)
  | load =>
    rename_i w' m' messageId _
    rcases update rfl with same | ⟨_, eq⟩
    · exact .inl (before same)
    · -- `load_facts` returns at once only when the row is missing
      cases h : loadFacts s.store m'.source m'.rowId with
      | none => simp [h, afterLoad] at eq
      | some candidate =>
        simp only [h, afterLoad] at eq
        split_ifs at eq
  | find reading query order =>
    rename_i w' job candidate found counterparties now
    rcases update rfl with same | ⟨_, eq⟩
    · exact .inl (before same)
    have kn := inv.workers w'
    have link := linked w'
    rw [reading] at kn link
    cases job with
    | sweep _ => simp [afterFind] at eq
    | message m' messageId =>
      simp only [afterFind] at eq
      split at eq
      · rename_i deferred
        obtain rfl : m' = m := by simpa using eq
        obtain ⟨rfl, rfl, _⟩ := first
        obtain ⟨source, rowId, _⟩ := link
        rw [source, rowId]
        refine .inr (.inr ⟨kn.1.1, fun row mem idEq row' mem' pending => ?_⟩)
        have factsEq : facts row candidate.side = candidate := kn.1.2 row mem idEq
        rw [factsEq]
        cases viable : Core.classifyPair candidate (facts row' candidate.side.other) config with
        | none => rfl
        | some v =>
          have listed := viable_mem_findCounterparties windows query mem' pending viable
          have none := Core.decide_eq_none.1 deferred _ (order.symm.subset listed)
          simp [viable] at none
      · cases eq
  | apply writing fresh ok =>
    rename_i w' job candidate decision sides now draws store res
    rcases update rfl with same | ⟨_, eq⟩
    · exact .inl (before same)
    cases job with
    | sweep _ => cases eq
    | message m' messageId =>
      obtain rfl : m' = m := by simpa [Job.done] using eq
      obtain ⟨rfl, rfl, notDuplicate⟩ := first
      have link := linked w'
      rw [writing] at link
      have taken := taken_of_apply inv (linked w') unraced writing notDuplicate ok
      rw [link.1, link.2.1]
      exact .inr (.inl taken)
  | ack | scan | beginRow | abandon =>
    rcases update rfl with same | ⟨_, eq⟩
    · exact .inl (before same)
    · cases eq

/-- What a run without races keeps: of two pending rows that form a viable pair, at most one has had
    its first receipt processed. -/
structure PairsOpen (config : MatchConfig) (tr : List (Sys × Event)) (s : Sys) : Prop where
  linked : ∀ w, (s.workers w).Linked config s.drawn
  drawn : ∀ side rowId, Attempted tr s side rowId → rowId ∈ s.drawn side
  pairs : ∀ side, ∀ row ∈ s.store.raw side, ∀ row' ∈ s.store.raw side.other,
    row.pending = true → row'.pending = true →
    Attempted tr s side row.id → Attempted tr s side.other row'.id →
      Core.classifyPair (facts row side) (facts row' side.other) config = none

/-- A step without a race keeps pairs open. -/
lemma PairsOpen.step (windows : config.exactWindow ≤ config.driftWindow) (inv : s.Inv config)
    (pairs : PairsOpen config tr s) (unraced : Unraced s e) (st : Step config s e u) :
    PairsOpen config (tr ++ [(s, e)]) u := by
  have ext := st.extends
  -- an attempt is an old one, or ends with its row taken or without a viable partner
  have attempt {side rowId} (h : Attempted (tr ++ [(s, e)]) u side rowId) :
      Attempted tr s side rowId ∨ u.Taken side rowId ∨
        (rowId ∈ s.drawn side ∧ ∀ row ∈ s.store.raw side, row.id = rowId →
          ∀ row' ∈ s.store.raw side.other, row'.pending = true →
            Core.classifyPair (facts row side) (facts row' side.other) config = none) := by
    rcases h with ⟨p, mem, ack⟩ | ⟨w, m, returned, first⟩
    · rcases List.mem_append.1 mem with old | new
      · exact .inl (.inl ⟨p, old, ack⟩)
      · obtain rfl := List.mem_singleton.1 new
        obtain ⟨w, m, _, returned, first⟩ := ack
        exact .inl (.inr ⟨w, m, returned, first⟩)
    · rcases attempted_step windows inv pairs.linked unraced st returned first with old | new
      · exact .inl (.inr old)
      · exact .inr new
  have linked := st.linked inv pairs.linked
  have drawn : ∀ side rowId, Attempted (tr ++ [(s, e)]) u side rowId → rowId ∈ u.drawn side := by
    rintro side rowId (⟨p, mem, ack⟩ | ⟨w, m, returned, first⟩)
    · rcases List.mem_append.1 mem with old | new
      · exact ext.drawn _ _ (pairs.drawn side rowId (.inl ⟨p, old, ack⟩))
      · obtain rfl := List.mem_singleton.1 new
        obtain ⟨w, m, _, returned, first⟩ := ack
        exact ext.drawn _ _ (pairs.drawn side rowId (.inr ⟨w, m, returned, first⟩))
    · have link := linked w
      rw [returned] at link
      obtain ⟨rfl, rfl, _⟩ := first
      exact link
  refine ⟨linked, drawn, fun side row mem row' mem' pending pending' att att' => ?_⟩
  -- both rows were there and pending before the step
  have known {side rowId} (h : Attempted (tr ++ [(s, e)]) u side rowId) (open_ : ¬u.Taken side rowId) :
      rowId ∈ s.drawn side := by
    rcases attempt h with old | taken | ⟨drawn, _⟩
    · exact pairs.drawn _ _ old
    · exact absurd taken open_
    · exact drawn
  have open_row : ¬u.Taken side row.id := fun taken => by
    simp [taken row mem rfl] at pending
  have open_row' : ¬u.Taken side.other row'.id := fun taken => by
    simp [taken row' mem' rfl] at pending'
  obtain ⟨r0, mem0, same, pending0⟩ := ext.kept side row mem (known att open_row)
  obtain ⟨r0', mem0', same', pending0'⟩ := ext.kept _ row' mem' (known att' open_row')
  rw [← same, ← same']
  rcases attempt att with old | taken | ⟨_, deferred⟩
  · rcases attempt att' with old' | taken' | ⟨_, deferred'⟩
    · exact pairs.pairs side r0 mem0 r0' mem0' (pending0 pending) (pending0' pending')
        (id_of_facts same ▸ old) (id_of_facts same' ▸ old')
    · exact absurd taken' open_row'
    · rw [Core.classifyPair_comm]
      have := deferred' r0' mem0' (id_of_facts same') r0
      rw [IngestSource.other_other] at this
      exact this mem0 (pending0 pending)
  · exact absurd taken open_row
  · exact deferred r0 mem0 (id_of_facts same) r0' mem0' (pending0' pending')

/-- A run without races keeps pairs open. -/
lemma PairsOpen.reached (windows : config.exactWindow ≤ config.driftWindow)
    (run : Run (Step config) Sys.initial tr u) (unraced : ∀ p ∈ tr, Unraced p.1 p.2) :
    PairsOpen config tr u := by
  induction run with
  | nil =>
    refine ⟨fun _ => trivial, ?_, by rintro (_ | _) row ⟨⟩⟩
    rintro side rowId (⟨_, ⟨⟩, _⟩ | ⟨_, _, returned, _⟩)
    cases returned
  | @snoc tr t e u run st ih =>
    have before := ih fun p mem => unraced p (List.mem_append_left _ mem)
    exact before.step windows (.reached run) (unraced (t, e) (by simp)) st

/-- In a run in which no first receipt's insert finds its chosen partner taken while its candidate is
    pending, no viable pair is left once every first receipt is acked. -/
theorem none_left_behind (windows : config.exactWindow ≤ config.driftWindow)
    (run : Run (Step config) Sys.initial tr u) (unraced : ∀ p ∈ tr, Unraced p.1 p.2)
    (drained : Drained tr u) : NoneLeftBehind config u := by
  have pairs := PairsOpen.reached windows run unraced
  intro g memG l memL pendingG pendingL
  exact pairs.pairs .gateway g memG l memL pendingG pendingL
    (.inl (drained.1 .gateway g memG)) (.inl (drained.1 .ledger l memL))

end

/-! Two gateway rows and two ledger rows of one payment each. Both gateway messages are processed before
the ledger syncs; then the two ledger messages are read side by side, choose the same gateway row, and
the one that loses is acked. -/

section
variable {tr : List (Sys × Event)} {side : IngestSource} {rowId : ℕ}

/-- The rows whose first receipts are acked in a trace. -/
def ackedRows (tr : List (Sys × Event)) : List (IngestSource × ℕ) :=
  tr.filterMap fun (s, e) =>
    match e with
    | .ack w =>
      match s.workers w with
      | .returned m true => if m.isDuplicate then none else some (m.source, m.rowId)
      | _ => none
    | _ => none

lemma ackOf_of_mem_ackedRows (mem : (side, rowId) ∈ ackedRows tr) :
    ∃ p ∈ tr, AckOf p.1 p.2 side rowId := by
  obtain ⟨⟨s, e⟩, memP, eq⟩ := List.mem_filterMap.1 mem
  refine ⟨(s, e), memP, ?_⟩
  simp only at eq
  split at eq
  · rename_i w
    split at eq
    · rename_i m returned
      split_ifs at eq with duplicate
      obtain ⟨rfl, rfl⟩ := Prod.mk.inj (Option.some.inj eq)
      exact ⟨w, m, rfl, returned, rfl, rfl, by simpa using duplicate⟩
    · cases eq
  · cases eq

def Activity.isIdle : Activity → Bool
  | .idle => true
  | _ => false

/-- A computable check that every row is acked and the first `n` workers are idle. -/
def drainedBelow (n : ℕ) (tr : List (Sys × Event)) (u : Sys) : Bool :=
  ([IngestSource.gateway, .ledger].all fun side =>
      (u.store.raw side).all fun row => decide ((side, row.id) ∈ ackedRows tr)) &&
    ((List.range n).all fun w => (u.workers w).isIdle) &&
    tr.all fun p => p.2.worker.all (· < n)

lemma Drained.of_below {config : MatchConfig} {n : ℕ} {u : Sys}
    (run : Run (Step config) Sys.initial tr u) (below : drainedBelow n tr u = true) :
    Drained tr u := by
  simp only [drainedBelow, Bool.and_eq_true, List.all_eq_true, decide_eq_true_eq,
    List.mem_range] at below
  obtain ⟨⟨acked, idle⟩, named⟩ := below
  refine ⟨fun side row mem => ackOf_of_mem_ackedRows (acked side ?_ row mem), fun w => ?_⟩
  · cases side <;> simp
  · by_cases lt : w < n
    · have := idle w lt
      cases eq : u.workers w <;> simp_all [Activity.isIdle]
    · refine idle_of_unnamed run fun p mem eq => lt ?_
      have := named p mem
      rw [eq] at this
      simpa using this

end

namespace Sample

def secondEntry : LedgerEntryIn :=
  { Ingest.Sample.entry with idempotencyKey := "key-2", idempotencyKey_length := by decide }

def race : List Event :=
  let g1 := gatewayRow 0 "key-1"
  let g2 := gatewayRow 1 "key-2"
  let l1 := ledgerRow 0 Ingest.Sample.entry
  let l2 := ledgerRow 1 secondEntry
  [.openAccount Ingest.Sample.account,
    .ingest (.gateway 1 Ingest.Sample.payload "key-1" "null") (Ingest.Sample.drawsAfter 0),
    .ingest (.gateway 1 Ingest.Sample.payload "key-2" "null") (Ingest.Sample.drawsAfter 1),
    .load 0 (messageOf .gateway g1) none, .find 0 [] (.newYear 5), .ack 0,
    .load 0 (messageOf .gateway g2) none, .find 0 [] (.newYear 5), .ack 0,
    .ingest (.ledger 1 [Ingest.Sample.entry]) (Ingest.Sample.drawsAfter 0),
    .ingest (.ledger 1 [secondEntry]) (Ingest.Sample.drawsAfter 1),
    .load 0 (messageOf .ledger l1) none, .load 1 (messageOf .ledger l2) none,
    .find 0 [facts g1 .gateway, facts g2 .gateway] (.newYear 5),
    .find 1 [facts g1 .gateway, facts g2 .gateway] (.newYear 5),
    .apply 0 (.newYear 5) (drawsAt 1), .apply 1 (.newYear 5) (drawsAt 2),
    .ack 0, .ack 1]

end Sample

/-- Two workers race for one pair, one for each side's message; the loser's candidate is decided. -/
theorem none_left_behind_sample :
    ∃ tr u, replay (step .shipped) Sys.initial Sample.events = some (tr, u) ∧
      u.store.gatewayTransactions.length = 1 ∧ NoneLeftBehind .shipped u := by
  have runs : (replay (step .shipped) Sys.initial Sample.events).map (fun p =>
      decide (p.2.store.gatewayTransactions.length = 1) && drainedBelow 2 p.1 p.2 &&
        decide (∀ q ∈ p.1, Unraced q.1 q.2)) = some true := by decide +kernel
  obtain ⟨⟨tr, u⟩, eq, checks⟩ := Option.map_eq_some_iff.1 runs
  have run : Run (Step .shipped) Sys.initial tr u := .of_replay step_iff.1 eq
  simp only [Bool.and_eq_true, decide_eq_true_eq] at checks
  obtain ⟨⟨stored, drained⟩, unraced⟩ := checks
  exact ⟨tr, u, eq, stored, none_left_behind (by decide) run unraced (.of_below run drained)⟩

/-- Every first receipt is acked, nothing is in flight, and a viable pair is pending. -/
theorem viable_pair_left_behind :
    ∃ tr u, Run (Step .shipped) Sys.initial tr u ∧ Drained tr u ∧ ¬NoneLeftBehind .shipped u := by
  let g2 := Sample.gatewayRow 1 "key-2"
  let l2 := Sample.ledgerRow 1 Sample.secondEntry
  have runs : (replay (step .shipped) Sys.initial Sample.race).map (fun p =>
      drainedBelow 2 p.1 p.2 && decide (g2 ∈ p.2.store.raw .gateway) &&
        decide (l2 ∈ p.2.store.raw .ledger)) = some true := by decide +kernel
  obtain ⟨⟨tr, u⟩, eq, checks⟩ := Option.map_eq_some_iff.1 runs
  have run : Run (Step .shipped) Sys.initial tr u := .of_replay step_iff.1 eq
  simp only [Bool.and_eq_true, decide_eq_true_eq] at checks
  obtain ⟨⟨drained, memG⟩, memL⟩ := checks
  refine ⟨tr, u, run, .of_below run drained, fun none_left => ?_⟩
  have none_viable := none_left g2 memG l2 memL rfl rfl
  revert none_viable
  decide +kernel

end System
end LedgerLoop
