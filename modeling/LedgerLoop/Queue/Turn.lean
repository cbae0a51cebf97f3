import LedgerLoop.Queue.NoLoss
import LedgerLoop.Worker.Stalling

/-!
# A turn of the matcher's loop

One iteration of `MatcherWorker.run`: `_maybe_claim`, `XREADGROUP`, then `process` and `XACK` for each
entry, under one handler. What `process` raises ends the iteration, so that of the entries it obtained
those before the first that raises are processed and acked, and the others wait in the group for a later
claim (`turn_handles_leading`). An entry that is behind one that raises whenever it is claimed stays pending
for ever. What other parties do to the stream meanwhile does not matter to a turn,
whose entries are in its hands; what they commit to the database is part of `CallEnv`.
-/

set_option autoImplicit false

namespace LedgerLoop
open LedgerLoop.Library

namespace Queue

/-- What the loop reads and writes. -/
structure LoopState where
  store : Store
  stream : EventStream Entry
  /-- `_last_claim`, in microseconds. -/
  lastClaim : ℤ
  log : List LogEntry := []

/-- The settings of the loop. -/
structure LoopSettings where
  config : MatchConfig
  streamBatchSize : ℕ
  /-- `claim_interval_s`, in microseconds. -/
  claimInterval : ℤ

/-- What the handling of one entry takes from outside: what others commit before its transaction, clock
    readings, identity values, and what the database or Redis fails it with. -/
structure CallEnv where
  meanwhile : Store → Store
  now : Datetime
  draws : Draws
  fault : Option PyError := none
  ackFails : Bool := false
  /-- The stop event is set once the entry is acked. -/
  stop : Bool := false

/-- What an iteration takes from outside. -/
structure TurnEnv where
  monotonic : ℤ
  /-- Which pending entries have been idle for `claim_min_idle_ms`. -/
  idle : ℕ → Bool
  call : ℕ → CallEnv

/-- How an iteration ends. -/
inductive TurnEnd where
  | done
  /-- `NOGROUP`: the group is created again. -/
  | noGroup
  /-- `worker.batch_failed`, because `process` raised. -/
  | failed (e : PyError)
  /-- `worker.batch_failed`, because `XACK` was not answered. -/
  | ackFailed
deriving DecidableEq, Repr

/-- The `process` call of an entry. -/
def callProcess (config : MatchConfig) (env : CallEnv) (s : Store) (entry : ℕ × IngestMessage) :
    Except PyError (Store × ProcessOutcome) :=
  match env.fault with
  | some e => .error e
  | none => MatcherWorker.process (env.meanwhile s) entry.2 (some (toString entry.1)) config env.now
      env.draws

/-- `for entry_id, message in entries`. -/
def handleEntries (config : MatchConfig) (env : ℕ → CallEnv) (st : LoopState) :
    List (ℕ × IngestMessage) → LoopState × TurnEnd
  | [] => (st, .done)
  | entry :: rest =>
    match callProcess config (env 0) st.store entry with
    | .error e => ({ st with store := (env 0).meanwhile st.store }, .failed e)
    | .ok called =>
      let committed :=
        { st with store := called.1, log := st.log ++ [.processed entry.1 entry.2] }
      if (env 0).ackFails then (committed, .ackFailed)
      else
        let acked :=
          { committed with stream := st.stream.xack entry.1, log := committed.log ++ [.acked entry.1] }
        if (env 0).stop then (acked, .done) else handleEntries config (fun i => env (i + 1)) acked rest

/-- The oldest pending entries that are idle for long enough, as many as a batch holds. -/
def idleEntries (settings : LoopSettings) (env : TurnEnv) (stream : EventStream Entry) : List ℕ :=
  stream.group.elim [] fun g => ((g.pending.map Prod.fst).filter env.idle).take settings.streamBatchSize

/-- `_maybe_claim`; `none` is the reply `NOGROUP`. -/
def maybeClaim (settings : LoopSettings) (w : ℕ) (env : TurnEnv) (st : LoopState) :
    LoopState × Option (List (ℕ × IngestMessage)) :=
  if env.monotonic - st.lastClaim < settings.claimInterval then (st, some [])
  else
    match st.stream.xautoclaim w (idleEntries settings env st.stream) with
    | none => ({ st with lastClaim := env.monotonic }, none)
    | some claim =>
      ({ st with lastClaim := env.monotonic, stream := claim.1 }, some (Delivery.batchOf claim.2))

/-- The entries of an iteration: claimed ones, then new ones. -/
def gather (settings : LoopSettings) (w : ℕ) (env : TurnEnv) (st : LoopState) :
    LoopState × Option (List (ℕ × IngestMessage)) :=
  let claimed := maybeClaim settings w env st
  match claimed.2 with
  | none => (claimed.1, none)
  | some entries =>
    match claimed.1.stream.xreadgroup w settings.streamBatchSize with
    | none => (claimed.1, none)
    | some read => ({ claimed.1 with stream := read.1 }, some (entries ++ Delivery.batchOf read.2))

/-- The body of `while not stop.is_set()`. -/
def turn (settings : LoopSettings) (w : ℕ) (env : TurnEnv) (st : LoopState) : LoopState × TurnEnd :=
  let gathered := gather settings w env st
  match gathered.2 with
  | none => ({ gathered.1 with stream := gathered.1.stream.xgroupCreate }, .noGroup)
  | some entries => handleEntries settings.config env.call gathered.1 entries

/-- The loop over the entries, were it to skip those whose call raises: of each entry, whether its own
    call succeeds. -/
def attemptEntries (config : MatchConfig) (env : ℕ → CallEnv) (s : Store) :
    List (ℕ × IngestMessage) → List ((ℕ × IngestMessage) × Bool)
  | [] => []
  | entry :: rest =>
    match callProcess config (env 0) s entry with
    | .error _ =>
      (entry, false) :: attemptEntries config (fun i => env (i + 1)) ((env 0).meanwhile s) rest
    | .ok called => (entry, true) :: attemptEntries config (fun i => env (i + 1)) called.1 rest

/-- The entries before the first whose call raises. -/
def leading (attempts : List ((ℕ × IngestMessage) × Bool)) : List (ℕ × IngestMessage) :=
  (attempts.takeWhile Prod.snd).map Prod.fst

/-- Entries are no longer pending. -/
def settle (stream : EventStream Entry) (entries : List (ℕ × IngestMessage)) : EventStream Entry :=
  { stream with
    group := stream.group.map fun g =>
      { g with pending := g.pending.filter fun p => decide (p.1 ∉ entries.map Prod.fst) } }

section
variable {settings : LoopSettings} {config : MatchConfig} {w : ℕ} {env : TurnEnv} {calls : ℕ → CallEnv}
  {st st' : LoopState} {entries : List (ℕ × IngestMessage)}

lemma settle_nil {stream : EventStream Entry} : settle stream [] = stream := by
  cases stream with
  | mk entries group =>
    cases group <;> simp [settle]

lemma settle_cons {stream : EventStream Entry} {entry : ℕ × IngestMessage} :
    settle (stream.xack entry.1) entries = settle stream (entry :: entries) := by
  cases stream with
  | mk entries group =>
    cases group with
    | none => rfl
    | some g =>
      simp only [settle, EventStream.xack, ConsumerGroup.ack, Option.map_some, List.filter_filter,
        List.map_cons, List.mem_cons, not_or]
      congr 3
      refine List.filter_congr fun p _ => ?_
      by_cases same : p.1 = entry.1 <;> simp [same, Bool.and_comm]

/-- The loop over the entries handles those before the first that raises, and no others. -/
lemma handleEntries_leading
    (running : ∀ i < entries.length, (calls i).stop = false ∧ (calls i).ackFails = false) :
    let handled := leading (attemptEntries config calls st.store entries)
    let ended := handleEntries config calls st entries
    ended.1.log = st.log ++ handled.flatMap (fun p => [.processed p.1 p.2, .acked p.1]) ∧
      ended.1.stream = settle st.stream handled ∧
      (ended.2 = .done ↔ ∀ p ∈ attemptEntries config calls st.store entries, p.2 = true) := by
  induction entries generalizing st calls with
  | nil => simp [handleEntries, attemptEntries, leading, settle_nil]
  | cons entry rest ih =>
    have first := running 0 (Nat.succ_pos _)
    cases call : callProcess config (calls 0) st.store entry with
    | error e => simp [handleEntries, attemptEntries, call, leading, settle_nil]
    | ok called =>
      obtain ⟨log, stream, ended⟩ := @ih (fun i => calls (i + 1))
        { st with store := called.1, stream := st.stream.xack entry.1
                  log := st.log ++ [.processed entry.1 entry.2] ++ [.acked entry.1] }
        fun i lt => running (i + 1) (Nat.succ_lt_succ lt)
      simp only [handleEntries, attemptEntries, call, first.1, first.2, Bool.false_eq_true, if_false]
      refine ⟨?_, ?_, ?_⟩
      · rw [log]
        simp [leading]
      · rw [stream, settle_cons]
        simp [leading]
      · rw [ended]
        simp

lemma attemptEntries_fst {s : Store} : (attemptEntries config calls s entries).map Prod.fst = entries := by
  induction entries generalizing s calls with
  | nil => rfl
  | cons entry rest ih =>
    rw [attemptEntries]
    split <;> rw [List.map_cons, ih]

/-- Obtaining entries logs nothing and leaves the database alone. -/
lemma gather_same : (gather settings w env st).1.log = st.log ∧
    (gather settings w env st).1.store = st.store := by
  have claim : (maybeClaim settings w env st).1.log = st.log ∧
      (maybeClaim settings w env st).1.store = st.store := by
    simp only [maybeClaim]
    split
    · exact ⟨rfl, rfl⟩
    · split <;> exact ⟨rfl, rfl⟩
  simp only [gather]
  split
  · exact claim
  · split <;> exact claim

/-- Of the entries an iteration obtained, exactly those before the first whose call raises are processed
    and acked, unless the stop event is set or Redis fails an ack; the others stay pending. -/
theorem turn_handles_leading (obtained : (gather settings w env st).2 = some entries)
    (running : ∀ i < entries.length, (env.call i).stop = false ∧ (env.call i).ackFails = false) :
    let attempts := attemptEntries settings.config env.call st.store entries
    let ended := turn settings w env st
    attempts.map Prod.fst = entries ∧
      ended.1.log =
        st.log ++ (leading attempts).flatMap (fun p => [.processed p.1 p.2, .acked p.1]) ∧
      ended.1.stream = settle (gather settings w env st).1.stream (leading attempts) ∧
      (ended.2 = .done ↔ ∀ p ∈ attempts, p.2 = true) := by
  obtain ⟨log, store⟩ := @gather_same settings w env st
  have ended : turn settings w env st =
      handleEntries settings.config env.call (gather settings w env st).1 entries := by
    simp only [turn, obtained]
  have handles := @handleEntries_leading settings.config env.call (gather settings w env st).1 entries
    running
  rw [log, store] at handles
  simp only [ended]
  exact ⟨attemptEntries_fst, handles⟩

end

/-! A payment dated half a minute before the end of the calendar, one behind it, and a matcher that reads
the events of both. -/

namespace Sample

def loopSettings : LoopSettings :=
  { config := .shipped, streamBatchSize := 64, claimInterval := 10000000 }

def eventOf (row : RawRow) (draws : IngestDraws) : OutboxEvent :=
  Ingest.outboxRow .gateway draws (Ingest.firstReceipt row) 0

def published : List Event :=
  let first := eventOf Persist.Sample.lastRow Ingest.Sample.draws
  let second := eventOf Sweeper.Sample.behind (Ingest.Sample.drawsAfter 1)
  [.database (.openAccount Ingest.Sample.account),
    .database (.ingest (.gateway 1 Persist.Sample.lastPayload "key-1" "null") Ingest.Sample.draws),
    .database (.ingest (.gateway 1 Ingest.Sample.payload "key-2" "null")
      (Ingest.Sample.drawsAfter 1)),
    .claim 0 [first, second], .publish 0, .publish 0, .mark 0, .commit 0 (.newYear 6), .ensureGroup]

def matcher (d : Delivery) : LoopState :=
  { store := d.sys.store, stream := d.stream, lastClaim := 0 }

def turnEnv : TurnEnv where
  monotonic := 0
  idle _ := false
  call i := { meanwhile := id, now := .newYear 7, draws := System.Sample.drawsAt i }

/-- What the iteration obtains, and whether it acks every entry whose own call succeeds. -/
def spared (d : Delivery) : Option Bool :=
  (gather loopSettings 0 turnEnv (matcher d)).2.map fun entries =>
    decide (∀ a ∈ attemptEntries .shipped turnEnv.call d.sys.store entries, a.2 = true →
      LogEntry.acked a.1.1 ∈ (turn loopSettings 0 turnEnv (matcher d)).1.log)

end Sample

/-- The iteration ends on the first entry, and the second, whose own call succeeds, is not acked. -/
theorem bad_message_starves_batch :
    ∃ tr d, replay (step .shipped Sample.settings) Delivery.initial Sample.published = some (tr, d) ∧
      ∃ entries, (gather Sample.loopSettings 0 Sample.turnEnv (Sample.matcher d)).2 = some entries ∧
        (∀ i, (Sample.turnEnv.call i).stop = false) ∧
        ¬∀ p ∈ attemptEntries .shipped Sample.turnEnv.call d.sys.store entries, p.2 = true →
          .acked p.1.1 ∈ (turn Sample.loopSettings 0 Sample.turnEnv (Sample.matcher d)).1.log := by
  have runs : ((replay (step .shipped Sample.settings) Delivery.initial Sample.published).map fun p =>
      Sample.spared p.2) = some (some false) := by decide +kernel
  obtain ⟨⟨tr, d⟩, eq, obtained⟩ := Option.map_eq_some_iff.1 runs
  obtain ⟨entries, gathered, starves⟩ := Option.map_eq_some_iff.1 obtained
  exact ⟨tr, d, eq, entries, gathered, fun _ => rfl, of_decide_eq_false starves⟩

theorem turn_handles_leading_sample :
    ∃ tr d, replay (step .shipped Sample.settings) Delivery.initial Sample.published = some (tr, d) ∧
      ∃ entries, (gather Sample.loopSettings 0 Sample.turnEnv (Sample.matcher d)).2 = some entries ∧
        entries.length = 2 ∧
        (turn Sample.loopSettings 0 Sample.turnEnv (Sample.matcher d)).1.log =
          (leading (attemptEntries .shipped Sample.turnEnv.call d.sys.store entries)).flatMap
            fun p => [.processed p.1 p.2, .acked p.1] := by
  have runs : ((replay (step .shipped Sample.settings) Delivery.initial Sample.published).map fun p =>
      (gather Sample.loopSettings 0 Sample.turnEnv (Sample.matcher p.2)).2.map List.length) =
      some (some 2) := by decide +kernel
  obtain ⟨⟨tr, d⟩, eq, obtained⟩ := Option.map_eq_some_iff.1 runs
  obtain ⟨entries, gathered, two⟩ := Option.map_eq_some_iff.1 obtained
  obtain ⟨_, log, _⟩ := turn_handles_leading gathered fun _ _ => ⟨rfl, rfl⟩
  exact ⟨tr, d, eq, entries, gathered, two, log⟩

end Queue
end LedgerLoop
