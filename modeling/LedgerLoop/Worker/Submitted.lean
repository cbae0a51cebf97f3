import LedgerLoop.Library.FirstWins
import LedgerLoop.Services.LedgerBatch
import LedgerLoop.Worker.Invariant
import LedgerLoop.Worker.Reconciled

/-!
# The raw tables as a register

`submissionsOf` is the log of what a tenant submitted in a run: the calls that committed, in order, from its
last deletion on. `raw_tables_register` says that the raw tables are its register: under each key one row, with
the content of the key's first submission and a tally of the others, whatever the matcher and the sweepers do
in between and however the ledger entries were cut into batches.
-/

set_option autoImplicit false

namespace LedgerLoop
open LedgerLoop.Library

/-- The identity of a submission within its tenant. -/
def Submission.key (sub : Submission) : IngestSource × String := (sub.side, sub.idempotencyKey)

/-- `occurred_at` as the column holds it, if it can. -/
def GatewayWebhookIn.instant (payload : GatewayWebhookIn) : Datetime :=
  match payload.occurredAt.toUtc with
  | .ok occurredAt => occurredAt
  | .error _ => payload.occurredAt.wall

lemma GatewayWebhookIn.instant_eq {payload : GatewayWebhookIn} {occurredAt : Datetime}
    (ok : payload.occurredAt.toUtc = .ok occurredAt) : payload.instant = occurredAt := by
  simp [GatewayWebhookIn.instant, ok]

/-- What matching compares of a gateway payload. -/
def GatewayWebhookIn.content (payload : GatewayWebhookIn) : Content :=
  ⟨payload.txnId, payload.amount, payload.currency, payload.instant⟩

/-- What matching compares of a ledger entry. -/
def LedgerEntryIn.content (entry : LedgerEntryIn) : Content :=
  ⟨entry.txnId, entry.amount, entry.currency, entry.instant⟩

/-- A ledger entry as a submission. -/
def LedgerEntryIn.submission (entry : LedgerEntryIn) : Submission :=
  ⟨.ledger, entry.idempotencyKey, entry.content⟩

/-- What a call submits, the key as its column holds it. -/
def IngestCall.submissions : IngestCall → List Submission
  | .gateway _ payload idempotencyKey _ => [⟨.gateway, Ingest.columnOf idempotencyKey, payload.content⟩]
  | .ledger _ entries => entries.map LedgerEntryIn.submission

/-- What a call submits for a tenant. -/
def IngestCall.submittedBy (tenantId : ℕ) (call : IngestCall) : List Submission :=
  if call.tenantId = tenantId then call.submissions else []

/-- A tenant's log after an event. -/
def System.Event.log (tenantId : ℕ) (log : List Submission) : System.Event → List Submission
  | .ingest call _ => log ++ call.submittedBy tenantId
  | .deleteAccount accountId => if accountId = tenantId then [] else log
  | _ => log

/-- What a tenant submitted in a run, since its account was last deleted. -/
def submissionsOf (tenantId : ℕ) (tr : List (System.Sys × System.Event)) : List Submission :=
  tr.foldl (fun log p => p.2.log tenantId log) []

/-- What the submissions of a log leave under a key. -/
abbrev keptOf (log : List Submission) (side : IngestSource) (key : String) : Option (Content × ℕ) :=
  FirstWins.kept Submission.key Submission.content log (side, key)

/-- What a table holds under a key: the content and the number of submissions of each row. -/
def registerOf (tenantId : ℕ) (key : String) (rows : List RawRow) : List (Content × ℕ) :=
  (rows.filter (Ingest.holdsKey tenantId key)).map fun row => (row.content, row.duplicateCount + 1)

/-- The columns a register is read from. -/
def RawRow.registered (row : RawRow) : ℕ × String × Content × ℕ :=
  (row.tenantId, row.idempotencyKey, row.content, row.duplicateCount)

namespace Ingest

section Register
variable {tenantId t : ℕ} {key k : String} {rows rows' : List RawRow} {entries : List LedgerEntryIn}

/-- A register does not depend on the other columns. -/
lemma registerOf_congr (same : rows'.map RawRow.registered = rows.map RawRow.registered) :
    registerOf tenantId key rows' = registerOf tenantId key rows := by
  have read (rows : List RawRow) : registerOf tenantId key rows =
      ((rows.map RawRow.registered).filter fun c => c.1 == tenantId && c.2.1 == key).map
        fun c => (c.2.2.1, c.2.2.2 + 1) := by
    rw [List.filter_map, List.map_map]
    rfl
  rw [read, same, ← read]

lemma registerOf_append :
    registerOf tenantId key (rows ++ rows') = registerOf tenantId key rows ++ registerOf tenantId key rows' := by
  rw [registerOf, List.filter_append, List.map_append]
  rfl

/-- An update that moves the tallies of a key. -/
lemma registerOf_map {f : RawRow → RawRow} {delta : ℕ}
    (holds : ∀ row, holdsKey tenantId key (f row) = holdsKey tenantId key row)
    (content : ∀ row, (f row).content = row.content)
    (tally : ∀ row, holdsKey tenantId key row = true → (f row).duplicateCount = row.duplicateCount + delta) :
    registerOf tenantId key (rows.map f) =
      (registerOf tenantId key rows).map fun p => (p.1, p.2 + delta) := by
  have same : holdsKey tenantId key ∘ f = holdsKey tenantId key := funext holds
  rw [registerOf, registerOf, List.filter_map, same, List.map_map, List.map_map]
  refine List.map_congr_left fun row mem => ?_
  have count := tally row (List.mem_filter.1 mem).2
  simp only [Function.comp_apply, content, count]
  rw [Nat.add_right_comm]

/-- An update that leaves the tallies of a key. -/
lemma registerOf_same {f : RawRow → RawRow}
    (holds : ∀ row, holdsKey tenantId key (f row) = holdsKey tenantId key row)
    (content : ∀ row, (f row).content = row.content)
    (tally : ∀ row, holdsKey tenantId key row = true → (f row).duplicateCount = row.duplicateCount) :
    registerOf tenantId key (rows.map f) = registerOf tenantId key rows := by
  rw [registerOf_map holds content fun row held => (tally row held).trans (Nat.add_zero _).symm]
  simp

/-- The rows of a key that is not stored. -/
lemma registerOf_eq_nil (absent : rows.any (holdsKey tenantId key) = false) :
    registerOf tenantId key rows = [] := by
  have none_ : rows.filter (holdsKey tenantId key) = [] :=
    List.filter_eq_nil_iff.2 fun row mem => by simpa using List.any_eq_false.1 absent row mem
  rw [registerOf, none_, List.map_nil]

/-- Whether a key is stored shows in its register. -/
lemma any_holdsKey {o : Option (Content × ℕ)} (held : registerOf tenantId key rows = o.toList) :
    rows.any (holdsKey tenantId key) = o.isSome := by
  cases stored : rows.any (holdsKey tenantId key) with
  | false =>
    rw [registerOf_eq_nil stored] at held
    cases o with
    | none => rfl
    | some p => cases held
  | true =>
    obtain ⟨row, mem, holds⟩ := List.any_eq_true.1 stored
    have listed : (row.content, row.duplicateCount + 1) ∈ registerOf tenantId key rows :=
      List.mem_map_of_mem (List.mem_filter.2 ⟨mem, holds⟩)
    rw [held] at listed
    cases o with
    | none => cases listed
    | some p => rfl

/-- An update that moves the tally of another key. -/
lemma registerOf_bump_ne {delta : ℕ} (ne : ¬(t = tenantId ∧ k = key)) :
    registerOf tenantId key (bump t k delta rows) = registerOf tenantId key rows := by
  refine registerOf_same (fun row => ?_) (fun row => ?_) fun row holds => ?_
  · split_ifs <;> rfl
  · split_ifs <;> rfl
  · split_ifs with other
    · obtain ⟨tenant, keyEq⟩ := holdsKey_iff.1 holds
      obtain ⟨tenant', keyEq'⟩ := holdsKey_iff.1 other
      exact absurd ⟨tenant'.symm.trans tenant, keyEq'.symm.trans keyEq⟩ ne
    · rfl

/-- An update that moves the tally of the key. -/
lemma registerOf_bump {delta : ℕ} : registerOf tenantId key (bump tenantId key delta rows) =
    (registerOf tenantId key rows).map fun p => (p.1, p.2 + delta) := by
  refine registerOf_map (fun row => ?_) (fun row => ?_) fun row holds => ?_
  · split_ifs <;> rfl
  · split_ifs <;> rfl
  · rw [if_pos holds]

/-- The first entry under a key. -/
lemma filter_firstBy : (Dict.firstBy (·.idempotencyKey) entries).filter (fun p => p.1 == key) =
    ((entries.find? fun entry => entry.idempotencyKey == key).map fun entry => (key, entry)).toList := by
  induction entries with
  | nil => rfl
  | cons entry entries ih =>
    by_cases same : entry.idempotencyKey = key
    · subst same
      have none_ : ((Dict.firstBy (·.idempotencyKey) entries).filter fun p => p.1 ≠ entry.idempotencyKey).filter
          (fun p => p.1 == entry.idempotencyKey) = [] := by
        rw [List.filter_filter]
        refine List.filter_eq_nil_iff.2 fun p _ => ?_
        simp
      simp only [Dict.firstBy, List.filter_cons_of_pos, List.find?_cons_of_pos, beq_self_eq_true, none_]
      rfl
    · have ne : (entry.idempotencyKey == key) = false := beq_false_of_ne same
      simp only [Dict.firstBy, List.filter_cons, List.find?_cons, ne, List.filter_filter]
      rw [← ih]
      refine List.filter_congr fun p _ => ?_
      by_cases eq : p.1 = key
      · simp [eq, Ne.symm same]
      · simp [eq]

/-- The entries under a key, as submissions. -/
lemma countP_submissions {side : IngestSource} : (entries.map LedgerEntryIn.submission).countP
    (fun sub => sub.key = (side, key)) = if side = .ledger then occurrences entries key else 0 := by
  rw [List.countP_map, occurrences, List.count, List.countP_map]
  split_ifs with ledger
  · subst ledger
    refine List.countP_congr fun entry _ => ?_
    simp only [Function.comp_apply, decide_eq_true_eq, beq_iff_eq, Submission.key, LedgerEntryIn.submission,
      Prod.mk.injEq, true_and]
  · exact List.countP_eq_zero.2 fun entry _ => by
      simp [Submission.key, LedgerEntryIn.submission, Ne.symm ledger]

/-- What entries leave under a key, as submissions. -/
lemma keptOf_submissions : keptOf (entries.map LedgerEntryIn.submission) .ledger key =
    (entries.find? fun entry => entry.idempotencyKey == key).map fun entry =>
      (entry.content, occurrences entries key) := by
  have same : (fun sub : Submission => decide (sub.key = (IngestSource.ledger, key))) ∘ LedgerEntryIn.submission =
      fun entry => entry.idempotencyKey == key := by
    funext entry
    rw [Bool.eq_iff_iff]
    simp only [Function.comp_apply, decide_eq_true_eq, beq_iff_eq, Submission.key, LedgerEntryIn.submission,
      Prod.mk.injEq, true_and]
  rw [keptOf, FirstWins.kept, countP_submissions, if_pos rfl, List.find?_map, same, Option.map_map]
  rfl

/-- What submitting entries leaves under a key. -/
lemma registerOf_ledgerAfter {o : Option (Content × ℕ)} (held : registerOf tenantId key rows = o.toList) :
    registerOf tenantId key (ledgerAfter rows tenantId entries) =
      (FirstWins.further Submission.key Submission.content (entries.map LedgerEntryIn.submission)
        (.ledger, key) o).toList := by
  have old : registerOf tenantId key (rows.map (tallied tenantId entries)) =
      (registerOf tenantId key rows).map fun p => (p.1, p.2 + occurrences entries key) := by
    refine registerOf_map (fun _ => holdsKey_tallied) (fun row => ?_) fun row holds => ?_
    · unfold tallied
      split_ifs <;> rfl
    · obtain ⟨own, keyEq⟩ := holdsKey_iff.1 holds
      simp [tallied, own, keyEq]
  have new : registerOf tenantId key ((firstEntries rows tenantId entries).map fun p =>
      entryRow tenantId p.2 (occurrences entries p.1 - 1)) =
        if o.isSome then [] else (keptOf (entries.map LedgerEntryIn.submission) .ledger key).toList := by
    have selected : (holdsKey tenantId key ∘ fun p : String × LedgerEntryIn =>
        entryRow tenantId p.2 (occurrences entries p.1 - 1)) = fun p => p.2.idempotencyKey == key := by
      funext p
      simp [holdsKey, entryRow]
    have listed : (firstEntries rows tenantId entries).filter (fun p => p.2.idempotencyKey == key) =
        if o.isSome then [] else (Dict.firstBy (·.idempotencyKey) entries).filter (fun p => p.1 == key) := by
      rw [← any_holdsKey held, firstEntries, List.filter_filter]
      split_ifs with stored
      · refine List.filter_eq_nil_iff.2 fun p mem => ?_
        have keyEq := (Dict.of_mem_firstBy mem).2
        by_cases eq : p.1 = key
        · simp [eq, stored]
        · simp [keyEq, eq]
      · refine List.filter_congr fun p mem => ?_
        have keyEq := (Dict.of_mem_firstBy mem).2
        by_cases eq : p.1 = key
        · simp [keyEq, eq, stored]
        · simp [keyEq, eq]
    rw [registerOf, List.filter_map, selected, listed]
    split_ifs with stored
    · rfl
    · rw [filter_firstBy, keptOf_submissions]
      cases found : entries.find? fun entry => entry.idempotencyKey == key with
      | none => rfl
      | some entry =>
        have keyEq : entry.idempotencyKey = key := by simpa using List.find?_some found
        have pos := occurrences_pos.2 ⟨entry, List.mem_of_find?_eq_some found, keyEq⟩
        simp only [Option.map_some, Option.toList_some, List.map_cons, List.map_nil, entryRow,
          RawRow.content, LedgerEntryIn.content, Nat.sub_add_cancel pos]
  rw [ledgerAfter, registerOf_append, old, new, held]
  cases o with
  | none => rfl
  | some p =>
    rw [FirstWins.further, countP_submissions, if_pos rfl]
    rfl

/-- Entries of a tenant leave what others hold. -/
lemma registerOf_ledgerAfter_ne (ne : t ≠ tenantId) :
    registerOf tenantId key (ledgerAfter rows t entries) = registerOf tenantId key rows := by
  have new : registerOf tenantId key ((firstEntries rows t entries).map fun p =>
      entryRow t p.2 (occurrences entries p.1 - 1)) = [] := by
    refine registerOf_eq_nil (List.any_eq_false.2 fun row mem => ?_)
    obtain ⟨p, _, rfl⟩ := List.mem_map.1 mem
    simp [holdsKey, entryRow, ne]
  rw [ledgerAfter, registerOf_append, new, List.append_nil]
  refine registerOf_same (fun _ => holdsKey_tallied) (fun row => ?_) fun row holds => ?_
  · unfold tallied
    split_ifs <;> rfl
  · have other : row.tenantId ≠ t := fun eq => ne (eq.symm.trans (holdsKey_iff.1 holds).1)
    simp [tallied, other]

end Register

section Calls
variable {s s' : Store} {call : IngestCall} {draws : IngestDraws} {outcomes : List IngestOutcome}
  {tenantId : ℕ} {side : IngestSource} {key : String} {o : Option (Content × ℕ)}

/-- What a payment leaves under a key is what its submission does. -/
lemma registerOf_ingestGateway {t : ℕ} {payload : GatewayWebhookIn} {k body : String} {outcome : IngestOutcome}
    (ok : ingestGateway s t payload k body draws = .ok (s', outcome))
    (held : registerOf tenantId key (s.raw .gateway) = o.toList) :
    registerOf tenantId key (s'.raw .gateway) = (FirstWins.further Submission.key Submission.content
      ((IngestCall.gateway t payload k body).submittedBy tenantId) (.gateway, key) o).toList := by
  obtain ⟨column, occurredAt, stores, _, utc, did⟩ := ingestGateway_ok ok
  have other (ne : ¬(t = tenantId ∧ column = key)) : FirstWins.further Submission.key Submission.content
      ((IngestCall.gateway t payload k body).submittedBy tenantId) (.gateway, key) o = o := by
    refine FirstWins.further_of_ne fun sub mem eq => ?_
    unfold IngestCall.submittedBy at mem
    split_ifs at mem with tenant
    · rw [List.mem_singleton.1 mem, columnOf_eq stores] at eq
      exact ne ⟨tenant, congrArg Prod.snd eq⟩
    · cases mem
  have submitted (tenant : t = tenantId) : (IngestCall.gateway t payload k body).submittedBy tenantId =
      [⟨.gateway, column, payload.content⟩] := by
    rw [← columnOf_eq stores]
    exact if_pos tenant
  rcases did with ⟨stored_, existing, _, _, rfl⟩ | ⟨absent, _, _, rfl⟩
  · rw [raw_enqueue, Store.raw_setRaw]
    by_cases same : t = tenantId ∧ column = key
    · obtain ⟨rfl, rfl⟩ := same
      have present := (any_holdsKey held).symm.trans stored_
      obtain ⟨⟨c, n⟩, rfl⟩ := Option.isSome_iff_exists.1 present
      rw [registerOf_bump, held, submitted rfl]
      simp [FirstWins.further, Submission.key]
    · rw [registerOf_bump_ne same, held, other same]
  · rw [raw_enqueue, Store.raw_setRaw, registerOf_append, held]
    by_cases same : t = tenantId ∧ column = key
    · obtain ⟨rfl, rfl⟩ := same
      have none_ := (any_holdsKey held).symm.trans absent
      obtain rfl : o = none := by simpa using none_
      rw [submitted rfl]
      simp [FirstWins.further, FirstWins.kept, Submission.key, registerOf, holdsKey, gatewayRow,
        RawRow.content, GatewayWebhookIn.content, GatewayWebhookIn.instant_eq utc]
    · have new : registerOf tenantId key [gatewayRow t payload column body occurredAt draws] = [] := by
        refine registerOf_eq_nil (List.any_eq_false.2 fun row mem holds => ?_)
        rw [List.mem_singleton.1 mem] at holds
        exact same (holdsKey_iff.1 holds)
      rw [new, List.append_nil, other same]

/-- What a batch leaves under a key is what its entries do. -/
lemma registerOf_ledger {t : ℕ} {entries : List LedgerEntryIn}
    (ok : run s draws (.ledger t entries) = .ok (s', outcomes))
    (held : registerOf tenantId key (s.raw .ledger) = o.toList) :
    registerOf tenantId key (s'.raw .ledger) = (FirstWins.further Submission.key Submission.content
      ((IngestCall.ledger t entries).submittedBy tenantId) (.ledger, key) o).toList := by
  have columns {rows rows' : List RawRow} (same : rows.map RawRow.eraseReceipt = rows'.map RawRow.eraseReceipt) :
      rows.map RawRow.registered = rows'.map RawRow.registered := by
    have read := congrArg (List.map RawRow.registered) same
    rwa [List.map_map, List.map_map] at read
  rw [registerOf_congr (columns (ledger_of_ok ok).2)]
  by_cases tenant : t = tenantId
  · subst tenant
    rw [registerOf_ledgerAfter held, IngestCall.submittedBy,
      if_pos (show (IngestCall.ledger t entries).tenantId = t from rfl)]
    rfl
  · rw [registerOf_ledgerAfter_ne tenant, held, IngestCall.submittedBy,
      if_neg (show (IngestCall.ledger t entries).tenantId ≠ tenantId from tenant),
      FirstWins.further_of_ne fun _ mem => absurd mem List.not_mem_nil]

/-- A call submits on its own side. -/
lemma side_of_submittedBy {sub : Submission} (mem : sub ∈ call.submittedBy tenantId) : sub.side = call.side := by
  unfold IngestCall.submittedBy at mem
  split_ifs at mem
  · cases call with
    | gateway => rw [List.mem_singleton.1 mem]; rfl
    | ledger tenantId entries =>
      obtain ⟨entry, _, rfl⟩ := List.mem_map.1 mem
      rfl
  · cases mem

/-- What a call leaves under a key is what its submissions do. -/
lemma run_register (ok : run s draws call = .ok (s', outcomes))
    (held : registerOf tenantId key (s.raw side) = o.toList) :
    registerOf tenantId key (s'.raw side) = (FirstWins.further Submission.key Submission.content
      (call.submittedBy tenantId) (side, key) o).toList := by
  by_cases opposite : side = call.side.other
  · -- the table of the other side
    have same : s'.raw side = s.raw side := opposite ▸ (run_effect ok).other
    rw [same, held, FirstWins.further_of_ne fun sub mem eq => ?_]
    have sideEq : sub.side = side := congrArg Prod.fst eq
    exact IngestSource.other_ne call.side (opposite.symm.trans (sideEq.symm.trans (side_of_submittedBy mem)))
  · have own : side = call.side := by
      by_contra ne
      exact opposite (IngestSource.eq_other_of_ne (Ne.symm ne))
    subst own
    cases call with
    | gateway t payload k body =>
      obtain ⟨⟨s1, outcome⟩, eq, done⟩ := map_eq_ok.1 ok
      obtain ⟨rfl, _⟩ := Prod.mk.inj done
      exact registerOf_ingestGateway eq held
    | ledger t entries => exact registerOf_ledger ok held

end Calls

end Ingest

namespace System
open Persist
variable {config : MatchConfig} {s u : Sys} {e : Event} {tr : List (Sys × Event)} {tenantId : ℕ}
  {side : IngestSource} {key : String} {log : List Submission}

/-- A deletion leaves the rows of other tenants. -/
lemma registerOf_deleteAccount {store : Store} {accountId : ℕ} :
    registerOf tenantId key ((Sweeper.deleteAccount store accountId).raw side) =
      if accountId = tenantId then [] else registerOf tenantId key (store.raw side) := by
  rw [Sweeper.raw_deleteAccount]
  split_ifs with own
  · refine Ingest.registerOf_eq_nil (List.any_eq_false.2 fun row mem holds => ?_)
    have other := (mem_deleteWhere.1 mem).2
    simp [own, (Ingest.holdsKey_iff.1 holds).1] at other
  · rw [registerOf, registerOf, deleteWhere, List.filter_filter]
    refine congrArg (List.map _) (List.filter_congr fun row _ => ?_)
    by_cases tenant : row.tenantId = tenantId
    · simp [tenant, Ne.symm own]
    · simp [Ingest.holdsKey, tenant]

/-- A step leaves of a register what it adds to the log. -/
lemma Step.register (st : Step config s e u)
    (held : registerOf tenantId key (s.store.raw side) = (keptOf log side key).toList) :
    registerOf tenantId key (u.store.raw side) = (keptOf (e.log tenantId log) side key).toList := by
  cases st with
  | ingest fresh ok =>
    rw [Event.log, keptOf, FirstWins.kept_append]
    exact Ingest.run_register ok held
  | apply writing fresh ok =>
    obtain ⟨r, _, ⟨_, rfl⟩ | ⟨_, _, rfl⟩⟩ := persist_ok ok
    · exact held
    · refine (Ingest.registerOf_congr ?_).trans held
      change ((settle _ _ _ _).1.raw side).map RawRow.registered = _
      rw [settle_raw]
      split_ifs
      · rfl
      · exact map_markRows fun _ => rfl
  | deleteAccount =>
    refine registerOf_deleteAccount.trans ?_
    rw [Event.log]
    split_ifs
    · rfl
    · exact held
  | closeException ok =>
    obtain ⟨rfl, _⟩ := Queries.closeException_ok ok
    exact held
  | openAccount | load | find | ack | scan | beginRow | abandon => exact held

/-- In every reachable state the raw tables are the register of what was submitted. -/
lemma register_reached (run : Run (Step config) Sys.initial tr u) (tenantId : ℕ) (side : IngestSource)
    (key : String) :
    registerOf tenantId key (u.store.raw side) = (keptOf (submissionsOf tenantId tr) side key).toList := by
  induction run with
  | nil => cases side <;> rfl
  | snoc _ st ih =>
    rw [submissionsOf, List.foldl_append]
    exact st.register ih

/-- What is submitted under a key of a tenant, read off its row. -/
lemma keptOf_row (run : Run (Step config) Sys.initial tr u) {row : RawRow} (mem : row ∈ u.store.raw side)
    (tenant : row.tenantId = tenantId) : keptOf (submissionsOf tenantId tr) side row.idempotencyKey =
      some (row.content, row.duplicateCount + 1) := by
  have listed : (row.content, row.duplicateCount + 1) ∈
      registerOf tenantId row.idempotencyKey (u.store.raw side) :=
    List.mem_map_of_mem (List.mem_filter.2 ⟨mem, Ingest.holdsKey_iff.2 ⟨tenant, rfl⟩⟩)
  rw [register_reached run] at listed
  exact Option.mem_toList.1 listed

/-- What is submitted under a key has its row. -/
lemma exists_row_of_keptOf (run : Run (Step config) Sys.initial tr u) {content : Content} {n : ℕ}
    (kept : keptOf (submissionsOf tenantId tr) side key = some (content, n)) :
    ∃ row ∈ u.store.raw side, row.tenantId = tenantId ∧ row.idempotencyKey = key ∧ row.content = content ∧
      row.duplicateCount + 1 = n := by
  have listed : (content, n) ∈ registerOf tenantId key (u.store.raw side) := by
    rw [register_reached run, kept]
    exact List.mem_singleton_self _
  obtain ⟨row, mem, eq⟩ := List.mem_map.1 listed
  obtain ⟨mem, holds⟩ := List.mem_filter.1 mem
  obtain ⟨tenant, keyEq⟩ := Ingest.holdsKey_iff.1 holds
  obtain ⟨same, tally⟩ := Prod.mk.inj eq
  exact ⟨row, mem, tenant, keyEq, same, tally⟩

/-- A key of a tenant has one row. -/
lemma row_eq_of_key (run : Run (Step config) Sys.initial tr u) {a b : RawRow} (memA : a ∈ u.store.raw side)
    (memB : b ∈ u.store.raw side) (tenant : a.tenantId = b.tenantId) (same : a.idempotencyKey = b.idempotencyKey) :
    a = b := by
  have one := register_reached run a.tenantId side a.idempotencyKey
  rw [keptOf_row run memA rfl] at one
  have single : ((u.store.raw side).filter (Ingest.holdsKey a.tenantId a.idempotencyKey)).length = 1 := by
    have length := congrArg List.length one
    rwa [registerOf, List.length_map] at length
  obtain ⟨row, eq⟩ := List.length_eq_one_iff.1 single
  have listed {r : RawRow} (mem : r ∈ u.store.raw side) (tenant : r.tenantId = a.tenantId)
      (keyEq : r.idempotencyKey = a.idempotencyKey) : r = row :=
    List.mem_singleton.1 (eq ▸ List.mem_filter.2 ⟨mem, Ingest.holdsKey_iff.2 ⟨tenant, keyEq⟩⟩)
  rw [listed memA rfl rfl, listed memB tenant.symm same.symm]

/-- With agreeing repetitions, the tables hold what was submitted. -/
lemma ingested_reached (run : Run (Step config) Sys.initial tr u)
    (agree : ∀ a ∈ submissionsOf tenantId tr, ∀ b ∈ submissionsOf tenantId tr, a.key = b.key →
      a.content = b.content) : Ingested u.store tenantId (submissionsOf tenantId tr) where
  stored sub mem := by
    have kept : keptOf (submissionsOf tenantId tr) sub.side sub.idempotencyKey = some (sub.content, _) :=
      FirstWins.kept_of_mem mem fun b memB same => agree b memB sub mem same
    obtain ⟨row, memRow, tenant, keyEq, content, _⟩ := exists_row_of_keptOf run kept
    exact ⟨row, memRow, tenant, keyEq, content⟩
  submitted side row mem tenant := by
    obtain ⟨⟨sub, memSub, keyEq, content⟩, _⟩ := FirstWins.of_kept (keptOf_row run mem tenant)
    obtain ⟨rfl, same⟩ := Prod.mk.inj keyEq
    exact ⟨sub, memSub, rfl, same.symm, content.symm⟩
  tally side row mem tenant := by
    obtain ⟨_, count⟩ := FirstWins.of_kept (keptOf_row run mem tenant)
    rw [count]
    refine List.countP_congr fun sub _ => ?_
    simp only [decide_eq_true_eq, Submission.key, Prod.mk.injEq, Bool.and_eq_true, beq_iff_eq]
  keys side a memA b memB tenantA tenantB same := row_eq_of_key run memA memB (tenantA.trans tenantB.symm) same
  ids := (Sys.Inv.reached run).consistent.rawIds

/-- The rows of a tenant are listed once each. -/
lemma nodup_registered (run : Run (Step config) Sys.initial tr u) :
    (((u.store.raw side).filter (·.tenantId == tenantId)).map RawRow.registered).Nodup := by
  have rows : ((u.store.raw side).filter (·.tenantId == tenantId)).Nodup :=
    ((Sys.Inv.reached run).consistent.rawIds side).of_map.filter _
  refine rows.map_on fun a memA b memB same => ?_
  obtain ⟨tenant, rest⟩ := Prod.mk.inj same
  exact row_eq_of_key run (List.mem_filter.1 memA).1 (List.mem_filter.1 memB).1 tenant (Prod.mk.inj rest).1

/-- The rows of a tenant are what its log leaves. -/
lemma mem_registered (run : Run (Step config) Sys.initial tr u) {c : ℕ × String × Content × ℕ} :
    c ∈ ((u.store.raw side).filter (·.tenantId == tenantId)).map RawRow.registered ↔
      c.1 = tenantId ∧ keptOf (submissionsOf tenantId tr) side c.2.1 = some (c.2.2.1, c.2.2.2 + 1) := by
  rw [List.mem_map]
  constructor
  · rintro ⟨row, mem, rfl⟩
    obtain ⟨mem, tenant⟩ := List.mem_filter.1 mem
    exact ⟨beq_iff_eq.1 tenant, keptOf_row run mem (beq_iff_eq.1 tenant)⟩
  · obtain ⟨t, key, content, n⟩ := c
    rintro ⟨rfl, kept⟩
    obtain ⟨row, mem, tenant, rfl, rfl, tally⟩ := exists_row_of_keptOf run kept
    obtain rfl := Nat.succ.inj tally
    exact ⟨row, List.mem_filter.2 ⟨mem, beq_iff_eq.2 tenant⟩, by rw [RawRow.registered, tenant]⟩

/-- In every reachable state a tenant's raw tables are the register of what it submitted since its last
    deletion: under each key the one row of the first submission, with a tally of the others, and no other
    row. So two runs leave the same rows if they agree on the first submission and the number of submissions
    of each key, in whatever order calls, batches, matchers and sweepers interleave. -/
theorem raw_tables_register {tr' : List (Sys × Event)} {u' : Sys} (run : Run (Step config) Sys.initial tr u)
    (run' : Run (Step config) Sys.initial tr' u') (tenantId : ℕ) (side : IngestSource) :
    (∀ key, registerOf tenantId key (u.store.raw side) =
      (keptOf (submissionsOf tenantId tr) side key).toList) ∧
    ((∀ key, keptOf (submissionsOf tenantId tr) side key = keptOf (submissionsOf tenantId tr') side key) →
      (((u.store.raw side).filter (·.tenantId == tenantId)).map RawRow.registered).Perm
        (((u'.store.raw side).filter (·.tenantId == tenantId)).map RawRow.registered)) := by
  refine ⟨register_reached run tenantId side, fun agree => ?_⟩
  refine (List.perm_ext_iff_of_nodup (nodup_registered run) (nodup_registered run')).2 fun c => ?_
  rw [mem_registered run, mem_registered run', agree]

/-! A payment posted twice, between the two its ledger entry, twice in one batch, and a match. -/

namespace Sample

def repeatedEvents : List Event :=
  [.openAccount Ingest.Sample.account,
    .ingest (.gateway 1 Ingest.Sample.payload "key-1" "null") (Ingest.Sample.drawsAfter 0),
    .ingest (.ledger 1 [Ingest.Sample.entry, Ingest.Sample.entry]) (Ingest.Sample.drawsAfter 1),
    .load 0 (messageOf .gateway (gatewayRow 0 "key-1")) none,
    .ingest (.gateway 1 Ingest.Sample.payload "key-1" "null") (Ingest.Sample.drawsAfter 2),
    .find 0 [facts (ledgerRow 1 Ingest.Sample.entry) .ledger] (.newYear 5),
    .apply 0 (.newYear 5) (drawsAt 1), .ack 0]

end Sample

theorem raw_tables_register_sample :
    ∃ tr u, replay (step .shipped) Sys.initial Sample.repeatedEvents = some (tr, u) ∧
      (submissionsOf 1 tr).length = 4 ∧
      registerOf 1 "key-1" (u.store.raw .gateway) = [(Ingest.Sample.payload.content, 2)] ∧
      registerOf 1 "key-1" (u.store.raw .ledger) = (keptOf (submissionsOf 1 tr) .ledger "key-1").toList := by
  have runs : ((replay (step .shipped) Sys.initial Sample.repeatedEvents).map fun p =>
      ((submissionsOf 1 p.1).length, registerOf 1 "key-1" (p.2.store.raw .gateway))) =
        some (4, [(Ingest.Sample.payload.content, 2)]) := by decide +kernel
  obtain ⟨⟨tr, u⟩, eq, both⟩ := Option.map_eq_some_iff.1 runs
  obtain ⟨length, register⟩ := Prod.mk.inj both
  have run : Run (Step .shipped) Sys.initial tr u := .of_replay step_iff.1 eq
  exact ⟨tr, u, eq, length, register, (raw_tables_register run run 1 .ledger).1 "key-1"⟩

end System
end LedgerLoop
