import LedgerLoop.Frontend.Prediction

/-!
# The ground truth predicts the engine

If the backend has ingested and reconciled what `generate` emits, each line of `compareToTruth` agrees: the
loop emits the rows of its turns (`Emits`), these are the stored rows one by one (`Held`), and so the turns
are payments whose outcomes are the predicted ones (`Pays`). No generated amount is large enough for the one
case where `classify` and `classify_pair` part.
-/

set_option autoImplicit false

namespace LedgerLoop.Frontend
open Library JsText Binary64

/-- The text of printable units. -/
def textOf (t : JsText) : String := String.ofList (t.map toChar)

/-- Visible ASCII. -/
def Printable (t : JsText) : Prop := ∀ u ∈ t, 32 < u.toNat ∧ u.toNat < 127

instance (t : JsText) : Decidable (Printable t) :=
  List.decidableBAll (fun u : UInt16 => 32 < u.toNat ∧ u.toNat < 127) t

/-- The idempotency key of a row that is sent: a header, or a field of the line. -/
def SourceRow.sentKey (server : Server) (row : SourceRow) : Option String :=
  match row.side with
  | .gateway => (headerKey server (row.idempotencyKey.take 255)).map String.ofList
  | .ledger => (shortText 255 (row.idempotencyKey.take 255)).map Subtype.val

/-- What the API makes of a row that is sent. -/
def SourceRow.submission (server : Server) (row : SourceRow) : Option Submission := do
  let content ← row.received server
  let key ← row.sentKey server
  some ⟨row.side, key, content⟩

section Texts
variable {server : Server} {row : SourceRow} {sub : Submission} {t t' : JsText} {u v : UInt16} {n i j : ℕ}
  {host : Host} {cfg : GeneratorConfig} {runId : JsText}

lemma Printable.append (left : Printable t) (right : Printable t') : Printable (t ++ t') := by
  intro u mem
  rcases List.mem_append.1 mem with mem | mem
  · exact left u mem
  · exact right u mem

lemma Printable.ascii (printable : Printable t) : ∀ u ∈ t, u.toNat < 128 :=
  fun u mem => (printable u mem).2.trans (by norm_num)

lemma toNat_toChar (ascii : u.toNat < 128) : (toChar u).toNat = u.toNat := by
  have eq : u.toNat.toUInt16 = u := by simp
  rw [toChar]
  interval_cases u.toNat <;> rfl

/-- Printable texts are told apart. -/
lemma textOf_inj (printable : Printable t) (printable' : Printable t') (same : textOf t = textOf t') :
    t = t' := by
  have chars : t.map toChar = t'.map toChar := by simpa [textOf] using congrArg String.toList same
  have lift {s : JsText} (printable : Printable s) : (s.map toChar).map Char.toNat = s.map UInt16.toNat := by
    rw [List.map_map]
    exact List.map_congr_left fun u mem => toNat_toChar (printable.ascii u mem)
  have nats : t.map UInt16.toNat = t'.map UInt16.toNat := by rw [← lift printable, chars, lift printable']
  exact List.map_injective_iff.2 (fun a b eq => UInt16.toNat_inj.1 eq) nats

/-- A printable text is read as it is. -/
lemma shortText_printable {s : { s : String // HasLength n s }} (printable : Printable t)
    (read : shortText n t = some s) : s.1 = textOf t ∧ t.length ≤ n := by
  rw [shortText, decode_ascii printable.ascii, Option.bind_some] at read
  split_ifs at read with short
  obtain rfl := Option.some.inj read
  refine ⟨rfl, ?_⟩
  have := short.2
  rwa [String.length_ofList, List.length_map] at this

/-- A printable key is sent as it is. -/
lemma headerKey_printable {cs : List Char} (printable : Printable t) (read : headerKey server t = some cs) :
    String.ofList cs = textOf t := by
  have visible {s : JsText} (printable : Printable s) : s.dropWhile isHttpSpace = s := by
    refine List.dropWhile_eq_self_iff.2 fun pos => ?_
    have := (printable _ (List.getElem_mem pos)).1
    simp only [isHttpSpace, Bool.or_eq_true, beq_iff_eq, not_or]
    refine ⟨⟨⟨?_, ?_⟩, ?_⟩, ?_⟩ <;> intro eq <;> rw [eq] at this <;> exact absurd this (by decide)
  have trimmed : httpTrim t = t := by
    rw [httpTrim, visible printable, visible fun u mem => printable u (List.mem_reverse.1 mem),
      List.reverse_reverse]
  obtain ⟨sent, header, read⟩ := Option.bind_eq_some_iff.1 read
  simp only [fetchHeader, trimmed] at header
  split_ifs at header
  obtain rfl := Option.some.inj header
  split_ifs at read
  rw [getIdempotencyKey] at read
  split_ifs at read
  obtain rfl := Option.some.inj read
  rfl

/-- The parts of a submission. -/
lemma submission_eq_some (made : row.submission server = some sub) (key : Printable row.idempotencyKey)
    (short : row.idempotencyKey.length ≤ 255) :
    sub.side = row.side ∧ row.received server = some sub.content ∧
      sub.idempotencyKey = textOf row.idempotencyKey := by
  obtain ⟨content, received, made⟩ := Option.bind_eq_some_iff.1 made
  obtain ⟨k, read, made⟩ := Option.bind_eq_some_iff.1 made
  obtain rfl := Option.some.inj made
  refine ⟨rfl, received, ?_⟩
  rw [SourceRow.sentKey, List.take_of_length_le short] at read
  split at read
  · obtain ⟨cs, header, rfl⟩ := Option.map_eq_some_iff.1 read
    exact headerKey_printable key header
  · obtain ⟨s, field, rfl⟩ := Option.map_eq_some_iff.1 read
    exact (shortText_printable key field).1

lemma printable_digits : Printable (pad n i) := by
  intro u mem
  obtain ⟨lo, hi⟩ := toNat_of_isDigit (ascii_of_mem_pad mem)
  omega

lemma printable_shortCode {x : ℚ} : Printable (shortCode host x) := by
  intro u mem
  obtain ⟨v, memV, rfl⟩ := List.mem_map.1 (List.mem_of_mem_drop mem)
  have range := host.radix36_printable x v memV
  split_ifs with lower
  · simp only [Bool.and_eq_true, decide_eq_true_eq, UInt16.le_iff_toNat_le] at lower
    have lo : 97 ≤ v.toNat := lower.1
    have le : (32 : UInt16) ≤ v := UInt16.le_iff_toNat_le.2 (by change 32 ≤ v.toNat; omega)
    have sub : (v - 32).toNat = v.toNat - 32 := UInt16.toNat_sub_of_le _ _ le
    omega
  · exact range

lemma printable_runIdOf : Printable (runIdOf host cfg) := printable_shortCode.append printable_shortCode

lemma length_runIdOf : (runIdOf host cfg).length ≤ 8 := by
  have four {x : ℚ} : (shortCode host x).length ≤ 4 := by
    rw [shortCode, List.length_drop]
    omega
  have := @four cfg.seed
  have := @four host.idNow
  rw [runIdOf, List.length_append]
  omega

lemma printable_txnIdOf (run : Printable runId) : Printable (txnIdOf runId i) := by
  have tag : Printable (lit "TXN-") := by decide
  refine (tag.append run).append ?_
  exact Printable.append (t := [unit '-']) (fun u mem => List.mem_singleton.1 mem ▸ by decide) printable_digits

/-- Transaction ids are numbered. -/
lemma txnIdOf_inj (same : txnIdOf runId i = txnIdOf runId j) : i = j := by
  have digits := List.append_cancel_left same
  have eq := congrArg number (List.cons.inj digits).2
  simpa only [pad, List.leftpad, number_append, number_replicate, number_ofNat, zero_mul, zero_add] using eq

end Texts

/-! ## A generated run -/

section Fed
variable {server : Server} {s : Store} {tenantId : ℕ} {rows : List SourceRow} {submissions : List Submission}
  {row row' : SourceRow} {f f' : TxnFacts}

/-- A row is taken with its texts: they are printable and short enough. -/
structure SourceRow.Plain (row : SourceRow) : Prop where
  txnId : Printable row.txnId
  key : Printable row.idempotencyKey
  short : row.txnId.length ≤ 128 → row.idempotencyKey.length ≤ 255

/-- The database holds a row that was sent as the row with these facts. -/
structure Held (server : Server) (s : Store) (tenantId : ℕ) (row : SourceRow) (f : TxnFacts) : Prop where
  side : f.side = row.side
  received : row.received server = some f.content
  stored : ∃ raw ∈ s.raw f.side, raw.tenantId = tenantId ∧ facts raw f.side = f ∧
    raw.idempotencyKey = textOf row.idempotencyKey

/-- The rows are accepted as the submissions. -/
def Accepted (server : Server) (rows : List SourceRow) (submissions : List Submission) : Prop :=
  List.Forall₂ (fun row sub => row.submission server = some sub) rows submissions

lemma SourceRow.Plain.submission (plain : row.Plain) {sub : Submission} (made : row.submission server = some sub) :
    sub.side = row.side ∧ row.received server = some sub.content ∧
      sub.idempotencyKey = textOf row.idempotencyKey := by
  obtain ⟨content, received, _⟩ := Option.bind_eq_some_iff.1 made
  obtain ⟨_, id, _, _, _, _, read, _⟩ := received_eq_some received
  exact submission_eq_some made plain.key (plain.short (shortText_printable plain.txnId read).2)

lemma Held.txnId (held : Held server s tenantId row f) (plain : row.Plain) : f.txnId = textOf row.txnId := by
  obtain ⟨_, id, _, _, _, _, read, _, _, _, _, same, _⟩ := received_eq_some held.received
  exact same.trans (shortText_printable plain.txnId read).1

lemma Held.tenantRow (held : Held server s tenantId row f) : s.TenantRow tenantId f := by
  obtain ⟨raw, mem, tenant, same, _⟩ := held.stored
  exact ⟨⟨raw, mem, same⟩, by rw [← same]; exact tenant⟩

/-- A row that was accepted is held. -/
lemma exists_held (accepted : Accepted server rows submissions) (ingested : Ingested s tenantId submissions)
    (plain : row.Plain) (mem : row ∈ rows) : ∃ f, Held server s tenantId row f := by
  obtain ⟨sub, memSub, made⟩ := exists_forall₂_of_mem accepted mem
  obtain ⟨side, received, key⟩ := plain.submission made
  obtain ⟨raw, memRaw, tenant, keyRaw, content⟩ := ingested.stored sub memSub
  refine ⟨facts raw row.side, rfl, ?_, raw, side ▸ memRaw, tenant, rfl, keyRaw.trans key⟩
  rw [received, ← content]
  rfl

/-- A stored row is held for a row that was sent. -/
lemma held_of_tenantRow (accepted : Accepted server rows submissions) (ingested : Ingested s tenantId submissions)
    (plain : ∀ row ∈ rows, row.Plain) (own : s.TenantRow tenantId f) :
    ∃ row ∈ rows, Held server s tenantId row f := by
  obtain ⟨⟨raw, memRaw, same⟩, tenant⟩ := own
  have tenantRaw : raw.tenantId = tenantId := (congrArg TxnFacts.tenantId same).trans tenant
  obtain ⟨sub, memSub, sideSub, keyRaw, content⟩ := ingested.submitted f.side raw memRaw tenantRaw
  obtain ⟨row, mem, made⟩ := exists_of_mem_forall₂ accepted memSub
  obtain ⟨side, received, key⟩ := (plain row mem).submission made
  refine ⟨row, mem, sideSub.symm.trans side, ?_, raw, memRaw, tenantRaw, same, keyRaw.trans key⟩
  rw [received, ← content, ← same]
  rfl

/-- One row is held for a key. -/
lemma Held.eq (ingested : Ingested s tenantId submissions) (held : Held server s tenantId row f)
    (held' : Held server s tenantId row' f') (side : row.side = row'.side)
    (key : row.idempotencyKey = row'.idempotencyKey) : f = f' := by
  obtain ⟨raw, mem, tenant, same, keyRaw⟩ := held.stored
  obtain ⟨raw', mem', tenant', same', keyRaw'⟩ := held'.stored
  have sides : f.side = f'.side := by rw [held.side, side, held'.side]
  rw [sides] at mem same
  obtain rfl := ingested.keys _ raw mem raw' mem' tenant tenant' (by rw [keyRaw, key, keyRaw'])
  exact same.symm.trans same'

/-- The tally of a row that is held counts the rows with its key. -/
lemma Held.tally (accepted : Accepted server rows submissions) (ingested : Ingested s tenantId submissions)
    (plain : ∀ row ∈ rows, row.Plain) (mem : row ∈ rows) (held : Held server s tenantId row f) {raw : RawRow}
    (memRaw : raw ∈ s.raw f.side) (same : facts raw f.side = f) :
    raw.duplicateCount + 1 =
      rows.countP fun r => r.side == row.side && r.idempotencyKey == row.idempotencyKey := by
  obtain ⟨raw', mem', tenant, same', keyRaw⟩ := held.stored
  have ids : raw.id = raw'.id := (congrArg TxnFacts.rowId same).trans (congrArg TxnFacts.rowId same').symm
  obtain rfl := eq_of_key (ingested.ids _) memRaw mem' ids
  rw [ingested.tally f.side raw memRaw tenant]
  refine (countP_forall₂ accepted fun r memR sub made => ?_).symm
  obtain ⟨side, _, key⟩ := (plain r memR).submission made
  rw [side, key, held.side, keyRaw, Bool.eq_iff_iff]
  simp only [Bool.and_eq_true, beq_iff_eq]
  refine and_congr_right fun _ => ⟨fun eq => by rw [eq], textOf_inj (plain r memR).key (plain row mem).key⟩

end Fed

section Turns
variable {host : Host} {cfg : GeneratorConfig} {server : Server} {s : Store} {tenantId i : ℕ} {d : Draw}
  {plan : List (ℕ × Draw)} {vars : LoopVars} {submissions : List Submission} {p q : ℕ × Draw} {row : SourceRow}
  {f : TxnFacts} {g : ℕ × Draw → TxnFacts} {l : ℕ × Draw → Option TxnFacts}

/-- The gateway row of a turn, without its line. -/
def gatewayOf (host : Host) (cfg : GeneratorConfig) (p : ℕ × Draw) : SourceRow :=
  gatewayRowOf cfg (runIdOf host cfg) p.1 0 p.2

/-- The ledger row of a turn, without its line. -/
def ledgerOf (host : Host) (cfg : GeneratorConfig) (p : ℕ × Draw) : SourceRow :=
  ledgerRowOf cfg (runIdOf host cfg) p.1 0 p.2

/-- A row is plain if its key is a short tag, the run id and its transaction id. -/
lemma plain_of_key (tag : JsText) (visible : Printable tag) (few : tag.length ≤ 4)
    (id : row.txnId = txnIdOf (runIdOf host cfg) i)
    (key : row.idempotencyKey = tag ++ runIdOf host cfg ++ unit '-' :: row.txnId) : row.Plain := by
  have printable : Printable row.txnId := id ▸ printable_txnIdOf printable_runIdOf
  refine ⟨printable, ?_, fun short => ?_⟩
  · rw [key]
    exact (visible.append printable_runIdOf).append
      (Printable.append (t := [unit '-']) (fun u mem => List.mem_singleton.1 mem ▸ by decide) printable)
  · have run := @length_runIdOf host cfg
    rw [key]
    simp only [List.length_append, List.length_cons]
    omega

lemma plain_gatewayOf : (gatewayOf host cfg p).Plain :=
  plain_of_key (lit "gw-") (by decide) (by decide) rfl rfl

lemma plain_ledgerOf : (ledgerOf host cfg p).Plain :=
  plain_of_key (lit "ldg-") (by decide) (by decide) rfl rfl

/-- Turns are told apart by the keys of their rows. -/
lemma key_gatewayOf_inj (same : (gatewayOf host cfg p).idempotencyKey = (gatewayOf host cfg q).idempotencyKey) :
    p.1 = q.1 :=
  txnIdOf_inj (List.cons.inj (List.append_cancel_left same)).2

lemma key_ledgerOf_inj (same : (ledgerOf host cfg p).idempotencyKey = (ledgerOf host cfg q).idempotencyKey) :
    p.1 = q.1 :=
  txnIdOf_inj (List.cons.inj (List.append_cancel_left same)).2

/-- Turns are numbered. -/
lemma Emits.eq_of_fst (emits : Emits cfg backendRules (runIdOf host cfg) plan vars) (mem : p ∈ plan)
    (mem' : q ∈ plan) (same : p.1 = q.1) : p = q := by
  have nodup : (plan.map Prod.fst).Nodup := emits.turns ▸ List.nodup_range
  exact List.inj_on_of_nodup_map nodup mem mem' same

/-- Every row is emitted by a turn. -/
lemma Emits.of_mem (emits : Emits cfg backendRules (runIdOf host cfg) plan vars)
    (mem : row ∈ vars.gateway ++ vars.ledger) : ∃ p ∈ plan, row.unlined = gatewayOf host cfg p ∨
      p.2.txn.dropped = false ∧ row.unlined = ledgerOf host cfg p := by
  rcases List.mem_append.1 mem with mem | mem
  · have listed := List.mem_map_of_mem (f := SourceRow.unlined) mem
    rw [emits.gateway] at listed
    obtain ⟨p, memP, listed⟩ := List.mem_flatMap.1 listed
    refine ⟨p, memP, .inl ?_⟩
    rcases List.mem_cons.1 listed with eq | listed
    · exact eq
    · split_ifs at listed
      · exact List.mem_singleton.1 listed
      · cases listed
  · have listed := List.mem_map_of_mem (f := SourceRow.unlined) mem
    rw [emits.ledger] at listed
    obtain ⟨p, memP, listed⟩ := List.mem_flatMap.1 listed
    refine ⟨p, memP, .inr ?_⟩
    rw [ledgerRowsOf] at listed
    split_ifs at listed with dropped
    · cases listed
    · exact ⟨by simpa using dropped, List.mem_singleton.1 listed⟩

/-- Every turn emits its gateway row. -/
lemma Emits.mem_gateway (emits : Emits cfg backendRules (runIdOf host cfg) plan vars) (mem : p ∈ plan) :
    ∃ row ∈ vars.gateway ++ vars.ledger, row.unlined = gatewayOf host cfg p := by
  have listed : gatewayOf host cfg p ∈ vars.gateway.map SourceRow.unlined :=
    emits.gateway ▸ List.mem_flatMap.2 ⟨p, mem, List.mem_cons_self⟩
  obtain ⟨row, memRow, eq⟩ := List.mem_map.1 listed
  exact ⟨row, List.mem_append_left _ memRow, eq⟩

/-- Every turn that is not dropped emits its ledger row. -/
lemma Emits.mem_ledger (emits : Emits cfg backendRules (runIdOf host cfg) plan vars) (mem : p ∈ plan)
    (sent : p.2.txn.dropped = false) :
    ∃ row ∈ vars.gateway ++ vars.ledger, row.unlined = ledgerOf host cfg p := by
  have listed : ledgerOf host cfg p ∈ vars.ledger.map SourceRow.unlined := by
    rw [emits.ledger]
    refine List.mem_flatMap.2 ⟨p, mem, ?_⟩
    rw [ledgerRowsOf, sent]
    exact List.mem_singleton_self _
  obtain ⟨row, memRow, eq⟩ := List.mem_map.1 listed
  exact ⟨row, List.mem_append_right _ memRow, eq⟩

lemma plain_of_unlined (plain : row.unlined.Plain) : row.Plain := ⟨plain.txnId, plain.key, plain.short⟩

/-- Every row that is emitted is taken with its texts. -/
lemma Emits.plain (emits : Emits cfg backendRules (runIdOf host cfg) plan vars) :
    ∀ row ∈ vars.gateway ++ vars.ledger, row.Plain := by
  intro row mem
  obtain ⟨p, _, eq | ⟨_, eq⟩⟩ := emits.of_mem mem
  · exact plain_of_unlined (eq ▸ plain_gatewayOf)
  · exact plain_of_unlined (eq ▸ plain_ledgerOf)

lemma held_unlined : Held server s tenantId row.unlined f ↔ Held server s tenantId row f :=
  ⟨fun held => ⟨held.side, held.received, held.stored⟩, fun held => ⟨held.side, held.received, held.stored⟩⟩

/-- The stored rows of the payments: the gateway row of each turn, and the ledger row if it is sent. -/
structure Pays (host : Host) (cfg : GeneratorConfig) (server : Server) (s : Store) (tenantId : ℕ)
    (plan : List (ℕ × Draw)) (g : ℕ × Draw → TxnFacts) (l : ℕ × Draw → Option TxnFacts) : Prop where
  gateway : ∀ p ∈ plan, Held server s tenantId (gatewayOf host cfg p) (g p)
  dropped : ∀ p ∈ plan, p.2.txn.dropped = true → l p = none
  ledger : ∀ p ∈ plan, p.2.txn.dropped = false → ∃ f, l p = some f ∧ Held server s tenantId (ledgerOf host cfg p) f

/-- What is fed to a pipeline that takes it is stored. -/
lemma Emits.exists_pays (emits : Emits cfg backendRules (runIdOf host cfg) plan vars)
    (accepted : Accepted server (vars.gateway ++ vars.ledger) submissions)
    (ingested : Ingested s tenantId submissions) : ∃ g l, Pays host cfg server s tenantId plan g l := by
  have gateway : ∀ p ∈ plan, ∃ f, Held server s tenantId (gatewayOf host cfg p) f := by
    intro p mem
    obtain ⟨row, memRow, eq⟩ := emits.mem_gateway mem
    obtain ⟨f, held⟩ := exists_held accepted ingested (emits.plain row memRow) memRow
    exact ⟨f, eq ▸ held_unlined.2 held⟩
  have ledger : ∀ p ∈ plan, ∃ o : Option TxnFacts, (p.2.txn.dropped = true → o = none) ∧
      (p.2.txn.dropped = false → ∃ f, o = some f ∧ Held server s tenantId (ledgerOf host cfg p) f) := by
    intro p mem
    cases sent : p.2.txn.dropped with
    | true => exact ⟨none, fun _ => rfl, nofun⟩
    | false =>
      obtain ⟨row, memRow, eq⟩ := emits.mem_ledger mem sent
      obtain ⟨f, held⟩ := exists_held accepted ingested (emits.plain row memRow) memRow
      exact ⟨some f, nofun, fun _ => ⟨f, rfl, eq ▸ held_unlined.2 held⟩⟩
  have : Nonempty TxnFacts := ⟨⟨.gateway, 0, 0, "", ⟨0, by norm_num⟩, "", .newYear 0, .newYear 0⟩⟩
  choose! g held using gateway
  choose! l none_ some_ using ledger
  exact ⟨g, l, held, none_, some_⟩

/-- The stored rows are those of the payments. -/
lemma Pays.planned (pays : Pays host cfg server s tenantId plan g l)
    (emits : Emits cfg backendRules (runIdOf host cfg) plan vars)
    (accepted : Accepted server (vars.gateway ++ vars.ledger) submissions)
    (ingested : Ingested s tenantId submissions) : Planned (s.TenantRow tenantId) plan g l where
  gateway p mem := ⟨(pays.gateway p mem).tenantRow, (pays.gateway p mem).side⟩
  ledger p mem f row := by
    cases sent : p.2.txn.dropped with
    | true =>
      rw [pays.dropped p mem sent] at row
      cases row
    | false =>
      obtain ⟨f', eq, held⟩ := pays.ledger p mem sent
      obtain rfl := Option.some.inj (row.symm.trans eq)
      refine ⟨held.tenantRow, held.side, ?_⟩
      rw [held.txnId plain_ledgerOf, (pays.gateway p mem).txnId plain_gatewayOf]
      rfl
  only f own := by
    obtain ⟨row, mem, held⟩ := held_of_tenantRow accepted ingested emits.plain own
    rw [← held_unlined] at held
    obtain ⟨p, memP, eq | ⟨sent, eq⟩⟩ := emits.of_mem mem <;> rw [eq] at held <;> refine ⟨p, memP, ?_⟩
    · exact .inl (held.eq ingested (pays.gateway p memP) rfl rfl)
    · obtain ⟨f', row', held'⟩ := pays.ledger p memP sent
      exact .inr (row'.trans (congrArg some (held'.eq ingested held rfl rfl)))
  distinct := by
    have nodup : (plan.map Prod.fst).Nodup := emits.turns ▸ List.nodup_range
    refine List.Nodup.map_on (fun p mem q mem' same => ?_) nodup.of_map
    rw [(pays.gateway p mem).txnId plain_gatewayOf, (pays.gateway q mem').txnId plain_gatewayOf] at same
    have plainId (p : ℕ × Draw) : Printable (gatewayOf host cfg p).txnId := plain_gatewayOf.txnId
    exact emits.eq_of_fst mem mem' (txnIdOf_inj (textOf_inj (plainId p) (plainId q) same))
  byId := by
    rintro f f' ⟨⟨raw, mem, same⟩, _⟩ ⟨⟨raw', mem', same'⟩, _⟩ side rowId
    rw [side] at mem same
    have ids : raw.id = raw'.id :=
      (congrArg TxnFacts.rowId same).trans (rowId.trans (congrArg TxnFacts.rowId same').symm)
    obtain rfl := eq_of_key (ingested.ids _) mem mem' ids
    exact same.symm.trans same'

/-- The results a prediction stands for. -/
def TruthVerdict.kinds : TruthVerdict → List (ReconStatus × MatchLayer)
  | .matchedExact => [(.matched, .exact)]
  | .matchedTimeDrift => [(.matched, .timeDrift)]
  | .amountDrift => [(.amountDrift, .amountDrift)]
  | .unmatchedGatewayOnly => [(.unmatchedGatewayOnly, .unmatchedSweep)]
  | .unmatchedBoth => [(.unmatchedGatewayOnly, .unmatchedSweep), (.unmatchedLedgerOnly, .unmatchedSweep)]

/-- No generated amount is large enough to collapse. -/
lemma Draw.Small.not_diverges (small : d.Small) : ¬Diverges d.txn := by
  rintro ⟨_, large, _⟩
  have := small.amount
  omega

/-- The outcomes of a turn are the predicted ones. -/
lemma Pays.predicted (pays : Pays host cfg server s tenantId plan g l) (mem : p ∈ plan) (small : p.2.Small) :
    (paymentOutcomes .shipped (g p) (l p)).map (fun o => (o.status, o.matchLayer)) =
      (classify p.2.txn backendRules).kinds := by
  have held := pays.gateway p mem
  have alone : (aloneOutcome (g p)).status = .unmatchedGatewayOnly := by
    simp [aloneOutcome, Decision.outcome, Core.decideUnmatched, held.side, gatewayOf, gatewayRowOf]
  cases sent : p.2.txn.dropped with
  | true =>
    rw [pays.dropped p mem sent, classify, sent, if_pos rfl]
    simp only [paymentOutcomes, List.map_cons, List.map_nil, alone]
    rfl
  | false =>
    obtain ⟨f, row, held'⟩ := pays.ledger p mem sent
    have safe : |p.2.txn.amount| < 2 ^ 53 := by
      have := small.amount
      rw [abs_lt]
      omega
    have safe' : |p.2.txn.ledgerAmount| < 2 ^ 53 := by
      have := small.ledgerAmount
      rw [abs_lt]
      omega
    obtain ⟨amount, occurredAt⟩ := received_amount held.received
      (ne_of_gt (lt_of_lt_of_le (by norm_num) small.amount.1)) safe
    obtain ⟨amount', occurredAt'⟩ := received_amount held'.received small.ledgerAmount.1.ne' safe'
    obtain ⟨txnId, currency⟩ := received_texts held.received held'.received rfl rfl
    have agree : (g p).Agree f :=
      ⟨held.tenantRow.2.trans held'.tenantRow.2.symm, by rw [held.side, held'.side]; rfl, txnId.symm, currency.symm⟩
    have verdict := @classifyPair_eq p.2.txn _ _ agree held.side amount amount' occurredAt occurredAt'
    have alone' : (aloneOutcome f).status = .unmatchedLedgerOnly := by
      simp [aloneOutcome, Decision.outcome, Core.decideUnmatched, held'.side, ledgerOf, ledgerRowOf]
    have paired : exactVerdict p.2.txn ≠ .unmatchedGatewayOnly := by
      unfold exactVerdict
      split_ifs <;> decide
    rw [classify_eq sent safe, if_neg small.not_diverges, row]
    simp only [paymentOutcomes, verdict]
    cases eq : exactVerdict p.2.txn with
    | matchedExact | matchedTimeDrift | amountDrift => rfl
    | unmatchedGatewayOnly => exact absurd eq paired
    | unmatchedBoth =>
      simp only [TruthVerdict.engine, List.map_cons, List.map_nil, alone, alone']
      rfl

/-- Counting what is predicted of each turn. -/
lemma countP_kinds {P : ReconStatus × MatchLayer → Bool} :
    (plan.flatMap fun p => (classify p.2.txn backendRules).kinds).countP P =
      turnsWith backendRules plan .matchedExact * TruthVerdict.matchedExact.kinds.countP P +
        turnsWith backendRules plan .matchedTimeDrift * TruthVerdict.matchedTimeDrift.kinds.countP P +
        turnsWith backendRules plan .amountDrift * TruthVerdict.amountDrift.kinds.countP P +
        turnsWith backendRules plan .unmatchedGatewayOnly * TruthVerdict.unmatchedGatewayOnly.kinds.countP P +
        turnsWith backendRules plan .unmatchedBoth * TruthVerdict.unmatchedBoth.kinds.countP P := by
  induction plan with
  | nil => simp [turnsWith]
  | cons p plan ih =>
    have one (verdict : TruthVerdict) : turnsWith backendRules (p :: plan) verdict =
        turnsWith backendRules plan verdict + if classify p.2.txn backendRules == verdict then 1 else 0 :=
      List.countP_cons
    rw [List.flatMap_cons, List.countP_append, ih]
    simp only [one]
    cases classify p.2.txn backendRules <;> simp only [beq_self_eq_true, if_true] <;> simp <;> ring

/-- Counting what one element contributes alone. -/
lemma countP_flatMap_single {α β : Type*} {plan : List α} {k : α → List β} {P : β → Bool} {p : α}
    (nodup : plan.Nodup) (mem : p ∈ plan) (other : ∀ q ∈ plan, q ≠ p → (k q).countP P = 0) :
    (plan.flatMap k).countP P = (k p).countP P := by
  induction plan with
  | nil => cases mem
  | cons q plan ih =>
    obtain ⟨fresh, nodup⟩ := List.nodup_cons.1 nodup
    rw [List.flatMap_cons, List.countP_append]
    rcases List.mem_cons.1 mem with rfl | mem
    · have rest : (plan.flatMap k).countP P = 0 := by
        rw [List.countP_eq_zero]
        intro x listed
        obtain ⟨q, memQ, here⟩ := List.mem_flatMap.1 listed
        have ne : q ≠ p := fun eq => fresh (eq ▸ memQ)
        exact List.countP_eq_zero.1 (other q (List.mem_cons_of_mem _ memQ) ne) x here
      rw [rest, add_zero]
    · have ne : q ≠ p := fun eq => fresh (eq ▸ mem)
      rw [other q List.mem_cons_self ne, zero_add,
        ih nodup mem fun q' memQ => other q' (List.mem_cons_of_mem _ memQ)]

/-- The rows with a side and a key. -/
def ofKey (row : SourceRow) (r : SourceRow) : Bool :=
  r.side == row.side && r.idempotencyKey == row.idempotencyKey

/-- The rows that are emitted, counted turn by turn. -/
lemma Emits.countP_ofKey (emits : Emits cfg backendRules (runIdOf host cfg) plan vars) :
    (vars.gateway ++ vars.ledger).countP (ofKey row) =
      (plan.flatMap (gatewayRowsOf cfg (runIdOf host cfg))).countP (ofKey row) +
        (plan.flatMap (ledgerRowsOf cfg (runIdOf host cfg))).countP (ofKey row) := by
  rw [List.countP_append, ← emits.gateway, ← emits.ledger, List.countP_map, List.countP_map]
  rfl

/-- The gateway rows with the key of a turn are the one it emits and its repetition. -/
lemma Emits.countP_gateway (emits : Emits cfg backendRules (runIdOf host cfg) plan vars) (mem : p ∈ plan) :
    (vars.gateway ++ vars.ledger).countP (ofKey (gatewayOf host cfg p)) =
      1 + if p.2.duplicate then 1 else 0 := by
  have nodup : (plan.map Prod.fst).Nodup := emits.turns ▸ List.nodup_range
  have own : ofKey (gatewayOf host cfg p) (gatewayOf host cfg p) = true := by simp [ofKey]
  have ledger : (plan.flatMap (ledgerRowsOf cfg (runIdOf host cfg))).countP (ofKey (gatewayOf host cfg p)) = 0 := by
    rw [List.countP_eq_zero]
    intro r listed
    obtain ⟨q, _, here⟩ := List.mem_flatMap.1 listed
    rw [ledgerRowsOf] at here
    split_ifs at here
    · cases here
    · rw [List.mem_singleton.1 here]
      exact Bool.false_ne_true
  rw [emits.countP_ofKey, ledger, add_zero, countP_flatMap_single nodup.of_map mem]
  · change (gatewayOf host cfg p :: if p.2.duplicate then [gatewayOf host cfg p] else []).countP _ = _
    rw [List.countP_cons_of_pos own, add_comm]
    split_ifs
    · rw [List.countP_singleton, own]
      rfl
    · rfl
  · intro q memQ ne
    have apart : ofKey (gatewayOf host cfg p) (gatewayOf host cfg q) = false := by
      refine Bool.eq_false_iff.2 fun same => ?_
      have keys : (gatewayOf host cfg q).idempotencyKey = (gatewayOf host cfg p).idempotencyKey :=
        beq_iff_eq.1 (Bool.and_eq_true_iff.1 same).2
      exact ne (emits.eq_of_fst memQ mem (key_gatewayOf_inj keys))
    change (gatewayOf host cfg q :: if q.2.duplicate then [gatewayOf host cfg q] else []).countP _ = 0
    split_ifs <;> simp [apart]

/-- The ledger row with the key of a turn is the one it emits. -/
lemma Emits.countP_ledger (emits : Emits cfg backendRules (runIdOf host cfg) plan vars) (mem : p ∈ plan)
    (sent : p.2.txn.dropped = false) :
    (vars.gateway ++ vars.ledger).countP (ofKey (ledgerOf host cfg p)) = 1 := by
  have nodup : (plan.map Prod.fst).Nodup := emits.turns ▸ List.nodup_range
  have gateway : (plan.flatMap (gatewayRowsOf cfg (runIdOf host cfg))).countP (ofKey (ledgerOf host cfg p)) = 0 := by
    rw [List.countP_eq_zero]
    intro r listed
    obtain ⟨q, _, here⟩ := List.mem_flatMap.1 listed
    have eq : r = gatewayOf host cfg q := by
      rcases List.mem_cons.1 here with eq | here
      · exact eq
      · split_ifs at here
        · exact List.mem_singleton.1 here
        · cases here
    rw [eq]
    exact Bool.false_ne_true
  rw [emits.countP_ofKey, gateway, zero_add, countP_flatMap_single nodup.of_map mem]
  · rw [ledgerRowsOf, sent, if_neg Bool.false_ne_true]
    simp [ofKey, ledgerOf]
  · intro q memQ ne
    have apart : ofKey (ledgerOf host cfg p) (ledgerOf host cfg q) = false := by
      refine Bool.eq_false_iff.2 fun same => ?_
      have keys : (ledgerOf host cfg q).idempotencyKey = (ledgerOf host cfg p).idempotencyKey :=
        beq_iff_eq.1 (Bool.and_eq_true_iff.1 same).2
      exact ne (emits.eq_of_fst memQ mem (key_ledgerOf_inj keys))
    rw [ledgerRowsOf]
    split_ifs
    · rfl
    · change [ledgerOf host cfg q].countP _ = 0
      simp [apart]

/-- The gateway rows that were submitted again are those of the turns with a duplicate. -/
lemma Pays.resubmitted_gateway (pays : Pays host cfg server s tenantId plan g l)
    (emits : Emits cfg backendRules (runIdOf host cfg) plan vars)
    (accepted : Accepted server (vars.gateway ++ vars.ledger) submissions)
    (ingested : Ingested s tenantId submissions) :
    (s.raw .gateway).countP (resubmitted tenantId) = plan.countP (·.2.duplicate) := by
  refine countP_gateway (pays.planned emits accepted ingested) (ingested.ids _) fun p mem raw memRaw same => ?_
  obtain ⟨row, memRow, eq⟩ := emits.mem_gateway mem
  have held : Held server s tenantId row (g p) := held_unlined.1 (eq ▸ pays.gateway p mem)
  have side : (g p).side = .gateway := (pays.gateway p mem).side
  have tally := held.tally accepted ingested emits.plain memRow (side.symm ▸ memRaw) (side.symm ▸ same)
  change _ = (vars.gateway ++ vars.ledger).countP (ofKey row.unlined) at tally
  rw [eq, emits.countP_gateway mem] at tally
  split_ifs at tally with again
  · simp only [again, iff_true]
    omega
  · simp only [again, Bool.false_eq_true, iff_false]
    omega

/-- No ledger row was submitted again. -/
lemma Emits.resubmitted_ledger (emits : Emits cfg backendRules (runIdOf host cfg) plan vars)
    (accepted : Accepted server (vars.gateway ++ vars.ledger) submissions)
    (ingested : Ingested s tenantId submissions) : (s.raw .ledger).countP (resubmitted tenantId) = 0 := by
  rw [List.countP_eq_zero]
  intro raw memRaw again
  simp only [resubmitted, Bool.and_eq_true, beq_iff_eq, decide_eq_true_eq] at again
  have own : s.TenantRow tenantId (facts raw .ledger) := ⟨⟨raw, memRaw, rfl⟩, again.1⟩
  obtain ⟨row, mem, held⟩ := held_of_tenantRow accepted ingested emits.plain own
  have tally := held.tally accepted ingested emits.plain mem memRaw rfl
  change _ = (vars.gateway ++ vars.ledger).countP (ofKey row.unlined) at tally
  obtain ⟨p, memP, eq | ⟨sent, eq⟩⟩ := emits.of_mem mem
  · have side : row.unlined.side = .ledger := held.side.symm
    rw [eq] at side
    cases side
  · rw [eq, emits.countP_ledger memP sent] at tally
    omega

/-- The stats of a run that is ingested and reconciled are the predicted ones. -/
lemma Pays.stats (pays : Pays host cfg server s tenantId plan g l)
    (emits : Emits cfg backendRules (runIdOf host cfg) plan vars)
    (accepted : Accepted server (vars.gateway ++ vars.ledger) submissions)
    (ingested : Ingested s tenantId submissions) (reconciled : Reconciled .shipped s tenantId)
    {window : WindowName} {now : Datetime} (covers : ∀ r ∈ s.reconciliationResults, r.tenantId = tenantId →
      (now.us - Timedelta.seconds window.seconds : ℤ) ≤ r.resolvedAt.us) :
    let row := (Queries.getStats s tenantId window now).row
    row.matched = turnsWith backendRules plan .matchedExact + turnsWith backendRules plan .matchedTimeDrift ∧
      row.viaTimeDrift = turnsWith backendRules plan .matchedTimeDrift ∧
      row.drift = turnsWith backendRules plan .amountDrift ∧
      row.unmatchedGateway =
        turnsWith backendRules plan .unmatchedGatewayOnly + turnsWith backendRules plan .unmatchedBoth ∧
      row.unmatchedLedger = turnsWith backendRules plan .unmatchedBoth ∧
      row.duplicates = plan.countP (·.2.duplicate) := by
  have planned := pays.planned emits accepted ingested
  have predicted : ∀ p ∈ plan, (paymentOutcomes .shipped (g p) (l p)).map (fun o => (o.status, o.matchLayer)) =
      (classify p.2.txn backendRules).kinds := fun p mem => pays.predicted mem (emits.small p mem)
  have shown {P : ReconciliationResult → Bool} : (Queries.windowRows s tenantId window now).countP P =
      s.reconciliationResults.countP fun r => r.tenantId == tenantId && P r := by
    rw [windowRows_eq covers, List.countP_filter]
    exact List.countP_congr fun r _ => by rw [Bool.and_comm]
  have count {P : ReconStatus × MatchLayer → Bool}
      (active : ∀ r ∈ s.reconciliationResults, P (r.status, r.matchLayer) = true → r.active = true) :=
    (shown (P := fun r => P (r.status, r.matchLayer))).trans
      ((countP_results reconciled planned predicted active).trans countP_kinds)
  have status {st : ReconStatus} (ne : st ≠ .duplicate) (r : ReconciliationResult) (eq : (r.status == st) = true) :
      r.active = true := by
    rw [beq_iff_eq] at eq
    simpa [ReconciliationResult.active, eq] using ne
  refine ⟨?_, ?_, ?_, ?_, ?_, ?_⟩
  · refine (count (P := fun k => k.1 == .matched) fun r _ => status (by decide) r).trans ?_
    simp [TruthVerdict.kinds]
  · refine (count (P := fun k => k.2 == .timeDrift) fun r mem eq => ?_).trans (by simp [TruthVerdict.kinds])
    have layer := reconciled.layered r mem
    have eq : r.matchLayer = .timeDrift := beq_iff_eq.1 eq
    rw [eq] at layer
    cases st : r.status <;> simp [st, ReconStatus.layers] at layer
    simp [ReconciliationResult.active, st]
  · refine (count (P := fun k => k.1 == .amountDrift || k.1 == .timeDrift) fun r _ eq => ?_).trans
      (by simp [TruthVerdict.kinds])
    rcases Bool.or_eq_true_iff.1 eq with eq | eq
    · exact status (by decide) r eq
    · exact status (by decide) r eq
  · refine (count (P := fun k => k.1 == .unmatchedGatewayOnly) fun r _ => status (by decide) r).trans ?_
    simp [TruthVerdict.kinds]
  · refine (count (P := fun k => k.1 == .unmatchedLedgerOnly) fun r _ => status (by decide) r).trans ?_
    simp [TruthVerdict.kinds]
  · refine shown.trans (reconciled.markers.trans ?_)
    rw [pays.resubmitted_gateway emits accepted ingested, emits.resubmitted_ledger accepted ingested, add_zero]

end Turns

/-! ## The prediction -/

/-- Two rows that carry a planned transaction. -/
structure Carries (txn : PlannedTxn) (g l : SourceRow) : Prop where
  gateway : g.side = .gateway
  ledger : l.side = .ledger
  txnId : l.txnId = g.txnId
  currency : l.currency = g.currency
  amount : g.amount = txn.amount
  ledgerAmount : l.amount = txn.ledgerAmount
  occurredAt : g.occurredAt = txn.occurredAt
  ledgerOccurredAt : l.occurredAt = txn.ledgerOccurredAt

/-- The amounts are safe integers other than zero. -/
structure PlannedTxn.InRange (txn : PlannedTxn) : Prop where
  amount : txn.amount ≠ 0 ∧ |txn.amount| < 2 ^ 53
  ledgerAmount : txn.ledgerAmount ≠ 0 ∧ |txn.ledgerAmount| < 2 ^ 53

/-- These are the facts of a row that has been sent and read back. -/
def Received (server : Server) (row : SourceRow) (f : TxnFacts) : Prop :=
  f.side = row.side ∧ row.received server = some f.content

/-- For every pair that is sent, the four predictions of `classify` are the verdicts of `classify_pair` on the
    rows as they are read back, whichever of them asks, exactly if the difference does not collapse. And for
    every generated run that is accepted, ingested and reconciled, all lines of the comparison agree. -/
theorem truth_predicts_iff {server : Server} :
    (∀ txn : PlannedTxn, txn.dropped = false → txn.InRange → ∀ g l f f', Carries txn g l →
      Received server g f → Received server l f' → f.tenantId = f'.tenantId →
        (Predicts txn (Core.classifyPair f f' .shipped) ∧ Predicts txn (Core.classifyPair f' f .shipped) ↔
          ¬Diverges txn)) ∧
    ∀ (host : Host) (cfg : GeneratorConfig) (s : Store) (tenantId : ℕ) (submissions : List Submission)
      (window : WindowName) (now : Datetime),
      Accepted server ((generate host cfg).gateway ++ (generate host cfg).ledger) submissions →
      Ingested s tenantId submissions → Reconciled .shipped s tenantId →
      (∀ r ∈ s.reconciliationResults, r.tenantId = tenantId →
        (now.us - Timedelta.seconds window.seconds : ℤ) ≤ r.resolvedAt.us) →
      ∀ check ∈ compareToTruth (generate host cfg).truth (detectedCounts (Queries.getStats s tenantId window now)),
        check.agrees = true := by
  constructor
  · intro txn paired range g l f f' carries received received' tenant
    have amounts := received_amount received.2 (carries.amount ▸ range.amount.1) (carries.amount ▸ range.amount.2)
    have amounts' := received_amount received'.2 (carries.ledgerAmount ▸ range.ledgerAmount.1)
      (carries.ledgerAmount ▸ range.ledgerAmount.2)
    obtain ⟨txnId, currency⟩ := received_texts received.2 received'.2 carries.txnId carries.currency
    have gateway : f.side = .gateway := received.1.trans carries.gateway
    have agree : f.Agree f' :=
      ⟨tenant, by rw [gateway, received'.1, carries.ledger]; rfl, txnId.symm, currency.symm⟩
    have verdict := classifyPair_eq agree gateway (amounts.1.trans carries.amount)
      (amounts'.1.trans carries.ledgerAmount) (carries.occurredAt ▸ amounts.2)
      (carries.ledgerOccurredAt ▸ amounts'.2)
    have swapped : Core.classifyPair f' f .shipped = Core.classifyPair f f' .shipped := Core.classifyPair_comm ..
    rw [swapped, verdict, and_self]
    exact predicts_iff paired range.amount.2
  · intro host cfg s tenantId submissions window now accepted ingested reconciled covers
    obtain ⟨plan, _, emits⟩ := @emits_loop host cfg backendRules (runIdOf host cfg) ⌈cfg.count⌉₊ (toUint32 cfg.seed)
    obtain ⟨g, l, pays⟩ := emits.exists_pays accepted ingested
    obtain ⟨matched, timeDrift, drift, gateway, ledger, duplicates⟩ :=
      pays.stats emits accepted ingested reconciled covers
    have truth : (generate host cfg).truth = { truthOf backendRules plan with
        gatewayRows := (generate host cfg).gateway.length, ledgerRows := (generate host cfg).ledger.length } := by
      rw [← emits.truth]
      rfl
    rw [truth]
    simp only [compareToTruth, truthLine, detectedCounts, truthOf, matched, timeDrift, drift, gateway, ledger,
      duplicates, Nat.add_sub_cancel, List.forall_mem_cons, beq_self_eq_true, true_and]
    exact fun _ mem => absurd mem List.not_mem_nil

/-! A pair of large amounts, and a run of one transaction. -/

namespace LargeAmounts

def txn : PlannedTxn := ⟨6000000000000299, 5940000000000296, 1700000000000, 1700000000000, false⟩

def gateway : SourceRow := ⟨.gateway, 1, lit "txn-1", txn.amount, lit "INR", txn.occurredAt, lit "gw-1"⟩

def ledger : SourceRow := ⟨.ledger, 2, lit "txn-1", txn.ledgerAmount, lit "INR", txn.ledgerOccurredAt, lit "ldg-1"⟩

/-- 2023-11-14T22:13:20Z. -/
def instant : Datetime := ⟨63835596800000000, by decide, by decide⟩

def gatewayFacts : TxnFacts :=
  ⟨.gateway, 1, 1, "txn-1", ⟨6000000000000299, by decide⟩, "INR", instant, .newYear 5⟩

def ledgerFacts : TxnFacts :=
  ⟨.ledger, 1, 1, "txn-1", ⟨5940000000000296, by decide⟩, "INR", instant, .newYear 5⟩

lemma carries : Carries txn gateway ledger := ⟨rfl, rfl, rfl, rfl, rfl, rfl, rfl, rfl⟩

lemma inRange : txn.InRange := ⟨by decide, by decide⟩

lemma received : Received plainServer gateway gatewayFacts := ⟨rfl, by decide +kernel⟩

lemma received_ledger : Received plainServer ledger ledgerFacts := ⟨rfl, by decide +kernel⟩

end LargeAmounts

open LargeAmounts in
/-- A difference of one minor unit more than the tolerance is predicted to be a drift, and is none. -/
theorem tolerance_collapses : ∃ txn g l f f', txn.dropped = false ∧ txn.InRange ∧ Carries txn g l ∧
    Received plainServer g f ∧ Received plainServer l f' ∧ f.tenantId = f'.tenantId ∧
      classify txn backendRules = .amountDrift ∧ Core.classifyPair f f' .shipped = none := by
  refine ⟨txn, gateway, ledger, gatewayFacts, ledgerFacts, rfl, inRange, carries, received, received_ledger, rfl,
    ?_, by decide +kernel⟩
  rw [classify_eq rfl (by decide), if_pos (by decide)]

namespace OneTxn

def host : Host where
  log _ := -5270630959457391 / 2251799813685248
  sqrt _ := 4872043885785483 / 2251799813685248
  cos _ := -3178033738222183 / 36028797018963968
  radix36 n := if n = 20260819 then lit "c29cj" else lit "loyw3v28"
  idNow := 1700000000000
  anchorNow := 1700000000000
  radix36_printable n u mem := by
    have seed : Printable (lit "c29cj") := by decide
    have now : Printable (lit "loyw3v28") := by decide
    split_ifs at mem
    · exact seed u mem
    · exact now u mem

def config : GeneratorConfig where
  count := 1
  dropRate := 0
  duplicateRate := 0
  driftRate := 0
  timeSkewMs := 400
  currency := lit "INR"
  seed := 20260819
  anchorMs := none

def payload : GatewayWebhookIn where
  txnId := "TXN-29CJ3V28-000000"
  amount := ⟨1366877, by decide⟩
  currency := "INR"
  occurredAt := .utc ⟨63835596763684000, by decide, by decide⟩
  gatewayRef := "gw-29CJ3V28-TXN-29CJ3V28-000000"
  txnId_length := by decide
  amount_nonzero := by decide
  currency_iso := by decide
  gatewayRef_length := by decide

def entry : LedgerEntryIn where
  entryId := "ldg-29CJ3V28-TXN-29CJ3V28-000000"
  txnId := "TXN-29CJ3V28-000000"
  amount := ⟨1366877, by decide⟩
  currency := "INR"
  occurredAt := .utc ⟨63835596764061000, by decide, by decide⟩
  idempotencyKey := "ldg-29CJ3V28-TXN-29CJ3V28-000000"
  entryId_length := by decide
  txnId_length := by decide
  amount_nonzero := by decide
  currency_iso := by decide
  idempotencyKey_length := by decide

def gatewayRow : RawRow :=
  Ingest.gatewayRow 1 payload "gw-29CJ3V28-TXN-29CJ3V28-000000" "null" ⟨63835596763684000, by decide, by decide⟩
    Ingest.Sample.draws

def ledgerRow : RawRow :=
  Ingest.ledgerRow 1 entry ⟨63835596764061000, by decide, by decide⟩ 0 Ingest.Sample.draws

def submissions : List Submission :=
  [⟨.gateway, gatewayRow.idempotencyKey, gatewayRow.content⟩,
    ⟨.ledger, ledgerRow.idempotencyKey, ledgerRow.content⟩]

def events : List System.Event :=
  [.openAccount Ingest.Sample.account,
    .ingest (.ledger 1 [entry]) Ingest.Sample.draws,
    .ingest (.gateway 1 payload gatewayRow.idempotencyKey "null") Ingest.Sample.draws,
    .load 0 (System.Sample.messageOf .gateway gatewayRow) none,
    .find 0 [facts ledgerRow .ledger] (.newYear 5),
    .apply 0 (.newYear 5) (System.Sample.drawsAt 1), .ack 0]

def reached : System.Sys := ((replay (System.step .shipped) System.Sys.initial events).map Prod.snd).getD {}

lemma accepted :
    Accepted plainServer ((generate host config).gateway ++ (generate host config).ledger) submissions := by
  have emitted : (generate host config).gateway ++ (generate host config).ledger =
      [⟨.gateway, 1, lit "TXN-29CJ3V28-000000", 1366877, lit "INR", 1699999963684,
          lit "gw-29CJ3V28-TXN-29CJ3V28-000000"⟩,
        ⟨.ledger, 2, lit "TXN-29CJ3V28-000000", 1366877, lit "INR", 1699999964061,
          lit "ldg-29CJ3V28-TXN-29CJ3V28-000000"⟩] := by
    decide +kernel
  rw [emitted]
  exact .cons (by decide +kernel) (.cons (by decide +kernel) .nil)

lemma ingested : Ingested reached.store 1 submissions where
  stored := by decide +kernel
  submitted side := by cases side <;> decide +kernel
  tally side := by cases side <;> decide +kernel
  keys side := by cases side <;> decide +kernel
  ids side := by cases side <;> decide +kernel

lemma reconciled : Reconciled .shipped reached.store 1 := by
  have run : (replay (System.step .shipped) System.Sys.initial events).map (fun p =>
      (p.1.all fun q => System.scheduled p.2 q.1 q.2) &&
        [IngestSource.gateway, .ledger].all fun side => System.settledTable (p.2.store.raw side)) = some true := by
    decide +kernel
  obtain ⟨⟨tr, u⟩, eq, checks⟩ := Option.map_eq_some_iff.1 run
  simp only [Bool.and_eq_true] at checks
  have last : reached = u := by rw [reached, eq]; rfl
  have schedule := System.Schedule.of_checks (.of_replay System.step_iff.1 eq) checks.1 checks.2
  rw [← last] at schedule
  exact schedule.reconciled (by decide) (by decide +kernel)

end OneTxn

open LargeAmounts OneTxn in
theorem truth_predicts_sample :
    ¬(Predicts txn (Core.classifyPair gatewayFacts ledgerFacts .shipped) ∧
      Predicts txn (Core.classifyPair ledgerFacts gatewayFacts .shipped)) ∧
    ∀ check ∈ compareToTruth (generate host config).truth
      (detectedCounts (Queries.getStats reached.store 1 .hour (.newYear 6))), check.agrees = true := by
  constructor
  · exact fun predicts => (truth_predicts_iff.1 txn rfl inRange gateway ledger gatewayFacts ledgerFacts carries
      received received_ledger rfl).1 predicts (by decide)
  · exact truth_predicts_iff.2 host config reached.store 1 submissions .hour (.newYear 6) accepted ingested
      reconciled (by decide +kernel)

end LedgerLoop.Frontend
