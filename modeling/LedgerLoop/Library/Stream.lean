import Mathlib.Tactic

/-!
# An append-only stream read by a consumer group

The commands of a Redis stream that a group of consumers uses: `XADD`, `XGROUP CREATE .. 0` and
`XGROUP DESTROY`, `XREADGROUP .. >`, `XAUTOCLAIM` and `XACK`. Entry ids increase, so an entry is
identified by its position, and the group's last delivered id is the number of entries delivered.

An entry is `Acked` by the group if it was delivered and is no longer pending. The lemmas say how each
command changes that: only `XACK` makes an entry acked.
-/

set_option autoImplicit false

namespace LedgerLoop.Library

/-- A consumer group: how many entries it has delivered, and the delivered entries that are not acked,
    with their owners. -/
structure ConsumerGroup where
  delivered : ℕ := 0
  pending : List (ℕ × ℕ) := []
deriving DecidableEq, Repr

namespace ConsumerGroup

/-- The next entries go to a consumer. -/
def deliver (g : ConsumerGroup) (consumer : ℕ) (ids : List ℕ) : ConsumerGroup where
  delivered := g.delivered + ids.length
  pending := g.pending ++ ids.map fun id => (id, consumer)

/-- Pending entries change owner. -/
def adopt (g : ConsumerGroup) (consumer : ℕ) (ids : List ℕ) : ConsumerGroup :=
  { g with pending := g.pending.map fun (id, owner) => (id, if id ∈ ids then consumer else owner) }

/-- An entry is no longer pending. -/
def ack (g : ConsumerGroup) (id : ℕ) : ConsumerGroup :=
  { g with pending := g.pending.filter fun p => p.1 != id }

end ConsumerGroup

/-- A stream and its group, if there is one. -/
structure EventStream (α : Type*) where
  entries : List α := []
  group : Option ConsumerGroup := none

namespace EventStream
variable {α : Type*}

/-- `XADD`. -/
def xadd (s : EventStream α) (entry : α) : EventStream α :=
  { s with entries := s.entries ++ [entry] }

/-- `XGROUP CREATE .. 0 MKSTREAM`; a group that exists is left alone. -/
def xgroupCreate (s : EventStream α) : EventStream α :=
  match s.group with
  | some _ => s
  | none => { s with group := some {} }

/-- The group is gone; the entries are not. -/
def xgroupDestroy (s : EventStream α) : EventStream α := { s with group := none }

/-- The entries with these ids, each with its id. -/
def fetch (s : EventStream α) (ids : List ℕ) : List (ℕ × α) :=
  ids.filterMap fun id => s.entries[id]?.map fun entry => (id, entry)

/-- The ids `XREADGROUP .. COUNT count >` delivers. -/
def undelivered (s : EventStream α) (g : ConsumerGroup) (count : ℕ) : List ℕ :=
  List.range' g.delivered (min count (s.entries.length - g.delivered))

/-- `XREADGROUP .. COUNT count >`; `none` is the reply `NOGROUP`. -/
def xreadgroup (s : EventStream α) (consumer count : ℕ) :
    Option (EventStream α × List (ℕ × α)) :=
  s.group.map fun g =>
    ({ s with group := some (g.deliver consumer (s.undelivered g count)) },
      s.fetch (s.undelivered g count))

/-- `XAUTOCLAIM`: `ids` are the pending entries found idle for long enough. -/
def xautoclaim (s : EventStream α) (consumer : ℕ) (ids : List ℕ) :
    Option (EventStream α × List (ℕ × α)) :=
  s.group.map fun g =>
    ({ s with group := some (g.adopt consumer ids) },
      s.fetch (ids.filter fun id => decide (id ∈ g.pending.map Prod.fst)))

/-- `XACK` of one entry. -/
def xack (s : EventStream α) (id : ℕ) : EventStream α :=
  { s with group := s.group.map fun g => g.ack id }

/-- The group has acked an entry: it was delivered and is not pending. -/
def Acked (s : EventStream α) (id : ℕ) : Prop :=
  ∃ g, s.group = some g ∧ id < g.delivered ∧ id ∉ g.pending.map Prod.fst

section
variable {s t : EventStream α} {entry : α} {consumer count id n : ℕ} {ids : List ℕ}
  {batch : List (ℕ × α)}

/-- What is fetched is in the stream. -/
lemma of_mem_fetch {p : ℕ × α} (mem : p ∈ s.fetch ids) : s.entries[p.1]? = some p.2 := by
  obtain ⟨id, _, eq⟩ := List.mem_filterMap.1 mem
  obtain ⟨entry, found, rfl⟩ := Option.map_eq_some_iff.1 eq
  exact found

/-- Entries stay where they are. -/
lemma getElem?_xadd (found : s.entries[id]? = some entry) {new : α} :
    (s.xadd new).entries[id]? = some entry := by
  obtain ⟨lt, _⟩ := List.getElem?_eq_some_iff.1 found
  simp only [xadd, List.getElem?_append_left lt, found]

/-- A new entry is at the end. -/
lemma getElem?_xadd_length : (s.xadd entry).entries[s.entries.length]? = some entry := by
  simp [xadd]

lemma acked_xadd : (s.xadd entry).Acked id ↔ s.Acked id := Iff.rfl

@[simp] lemma entries_xgroupCreate : s.xgroupCreate.entries = s.entries := by
  unfold xgroupCreate
  split <;> rfl

/-- A new group has acked nothing. -/
lemma acked_of_xgroupCreate (acked : s.xgroupCreate.Acked id) : s.Acked id := by
  unfold xgroupCreate at acked
  split at acked
  · exact acked
  · obtain ⟨g, eq, delivered, _⟩ := acked
    obtain rfl := Option.some.inj eq
    cases delivered

lemma not_acked_xgroupDestroy : ¬s.xgroupDestroy.Acked id := by
  rintro ⟨g, ⟨⟩, _⟩

/-- A read delivers entries of the stream, and what it delivers is pending. -/
lemma xreadgroup_spec (read : s.xreadgroup consumer count = some (t, batch)) :
    t.entries = s.entries ∧ (∀ p ∈ batch, s.entries[p.1]? = some p.2) ∧
      ∀ id, t.Acked id → s.Acked id := by
  obtain ⟨g, group, eq⟩ := Option.map_eq_some_iff.1 read
  obtain ⟨rfl, rfl⟩ := Prod.mk.inj eq
  refine ⟨rfl, fun p mem => of_mem_fetch mem, fun id acked => ?_⟩
  obtain ⟨g', eq', delivered, settled⟩ := acked
  obtain rfl := Option.some.inj eq'
  simp only [ConsumerGroup.deliver, List.map_append, List.mem_append, List.map_map, not_or] at settled
  refine ⟨g, group, ?_, settled.1⟩
  -- an id past the old mark is among those just delivered
  by_contra past
  refine settled.2 (List.mem_map.2 ⟨id, ?_, rfl⟩)
  simp only [ConsumerGroup.deliver, undelivered, List.length_range'] at delivered
  simp only [undelivered, List.mem_range'_1]
  omega

/-- An adoption changes owners only. -/
lemma xautoclaim_spec (claim : s.xautoclaim consumer ids = some (t, batch)) :
    t.entries = s.entries ∧ (∀ p ∈ batch, s.entries[p.1]? = some p.2) ∧
      ∀ id, t.Acked id → s.Acked id := by
  obtain ⟨g, group, eq⟩ := Option.map_eq_some_iff.1 claim
  obtain ⟨rfl, rfl⟩ := Prod.mk.inj eq
  refine ⟨rfl, fun p mem => of_mem_fetch mem, fun id acked => ?_⟩
  obtain ⟨g', eq', delivered, settled⟩ := acked
  obtain rfl := Option.some.inj eq'
  simp only [ConsumerGroup.adopt, List.map_map] at settled
  exact ⟨g, group, delivered, settled⟩

/-- An ack acks one entry. -/
lemma acked_of_xack (acked : (s.xack n).Acked id) : s.Acked id ∨ id = n := by
  obtain ⟨g', eq, delivered, settled⟩ := acked
  obtain ⟨g, group, rfl⟩ := Option.map_eq_some_iff.1 eq
  by_cases same : id = n
  · exact .inr same
  · refine .inl ⟨g, group, delivered, fun mem => settled ?_⟩
    obtain ⟨p, memP, rfl⟩ := List.mem_map.1 mem
    exact List.mem_map.2 ⟨p, List.mem_filter.2 ⟨memP, by simpa using same⟩, rfl⟩

end

end EventStream
end LedgerLoop.Library
