import Mathlib.Tactic

/-!
# Keyset paging

Pages of a table in descending order of id, each request asking for what is below the last id of the page
before. Between two requests the table grows at the top (`Grows`) and any of its rows may come to match
or stop matching.

`IsPage` is what one answer has to be. Of a `Walk` of such answers: the ids descend throughout, the walk
is no longer than the table of its start allows, and every id is covered by a page, on which it is
returned if it matches there.
-/

set_option autoImplicit false

namespace LedgerLoop.Library.Keyset

/-- The rows that were there are, and the others are above them. -/
structure Grows (old new : List ℕ) : Prop where
  kept : ∀ i ∈ old, i ∈ new
  above : ∀ i ∈ new, i ∈ old ∨ ∀ j ∈ old, j < i

lemma Grows.refl (table : List ℕ) : Grows table table := ⟨fun _ => id, fun _ => .inl⟩

lemma Grows.trans {a b c : List ℕ} (ab : Grows a b) (bc : Grows b c) : Grows a c where
  kept i mem := bc.kept i (ab.kept i mem)
  above i mem := by
    rcases bc.above i mem with old | new
    · exact ab.above i old
    · exact .inr fun j memJ => new j (ab.kept j memJ)

/-- A row with an id below an old one is old. -/
lemma Grows.mem_of_lt {old new : List ℕ} {i c : ℕ} (grows : Grows old new) (mem : i ∈ new)
    (memC : c ∈ old) (lt : i < c) : i ∈ old :=
  (grows.above i mem).resolve_right fun above => lt.asymm (above c memC)

/-- The ids a request asks for. -/
def Below (cursor : Option ℕ) (i : ℕ) : Prop := ∀ c, cursor = some c → i < c

/-- An answered request: the rows that matched and the rows that were there, the cursor it was made with,
    and what was returned. -/
structure Served where
  table : List ℕ
  matching : List ℕ
  cursor : Option ℕ
  ids : List ℕ
  next : Option ℕ

namespace Served

/-- The largest matching ids below the cursor, with the last of them if there are more. -/
structure IsPage (limit : ℕ) (p : Served) : Prop where
  descending : p.ids.Pairwise (· > ·)
  sound : ∀ i ∈ p.ids, i ∈ p.matching ∧ Below p.cursor i
  complete : ∀ i ∈ p.matching, Below p.cursor i → i ∈ p.ids ∨ ∃ n, p.next = some n ∧ i < n
  full : ∀ n, p.next = some n → p.ids.length = limit
  last : ∀ n, p.next = some n → n ∈ p.ids ∧ ∀ i ∈ p.ids, n ≤ i
  more : ∀ n, p.next = some n → ∃ i ∈ p.matching, Below p.cursor i ∧ i < n

/-- The ids between the cursors of a page. -/
def Covers (p : Served) (i : ℕ) : Prop := Below p.cursor i ∧ ∀ n, p.next = some n → n ≤ i

variable {limit : ℕ} {p : Served}

/-- There is no next page iff nothing that matches is below this one. -/
lemma IsPage.next_eq_none_iff (page : p.IsPage limit) :
    p.next = none ↔ ¬∃ i ∈ p.matching, Below p.cursor i ∧ ∀ j ∈ p.ids, i < j := by
  constructor
  · rintro none_ ⟨i, mem, below, less⟩
    rcases page.complete i mem below with returned | ⟨n, next, _⟩
    · exact (less i returned).false
    · cases none_.symm.trans next
  · intro nothing
    by_contra some_
    obtain ⟨n, next⟩ := Option.ne_none_iff_exists'.1 some_
    obtain ⟨i, mem, below, lt⟩ := page.more n next
    exact nothing ⟨i, mem, below, fun j memJ => lt.trans_le ((page.last n next).2 j memJ)⟩

/-- A covered id that matches is returned. -/
lemma IsPage.mem_of_covers {i : ℕ} (page : p.IsPage limit) (covers : p.Covers i)
    (mem : i ∈ p.matching) : i ∈ p.ids := by
  refine (page.complete i mem covers.1).resolve_right ?_
  rintro ⟨n, next, lt⟩
  exact lt.not_ge (covers.2 n next)

end Served

/-- What a query with one row more than the limit returns of the rows below the cursor. -/
lemma isPage_take {limit : ℕ} {table matching sorted : List ℕ} {cursor : Option ℕ} (pos : 1 ≤ limit)
    (desc : sorted.Pairwise (· > ·)) (mem : ∀ i, i ∈ sorted ↔ i ∈ matching ∧ Below cursor i) :
    Served.IsPage limit
      { table := table, matching := matching, cursor := cursor, ids := sorted.take limit
        next := if limit < sorted.length then sorted[limit - 1]? else none } := by
  have split := List.take_append_drop limit sorted
  have cross := desc
  rw [← split, List.pairwise_append] at cross
  obtain ⟨descTake, _, cross⟩ := cross
  have last {n : ℕ} (eq : (if limit < sorted.length then sorted[limit - 1]? else none) = some n) :
      limit < sorted.length ∧ n ∈ sorted.take limit ∧ ∀ i ∈ sorted.take limit, n ≤ i := by
    split_ifs at eq with more
    obtain ⟨inside, at_⟩ := List.getElem?_eq_some_iff.1 eq
    refine ⟨more, List.mem_take_iff_getElem.2 ⟨limit - 1, by omega, at_⟩, fun i memI => ?_⟩
    obtain ⟨k, lt, rfl⟩ := List.mem_take_iff_getElem.1 memI
    rcases Nat.lt_or_ge k (limit - 1) with before | here
    · exact at_ ▸ (List.pairwise_iff_getElem.1 desc k (limit - 1) (by omega) inside before).le
    · obtain rfl : k = limit - 1 := by omega
      exact at_.ge
  refine ⟨descTake, fun i memI => (mem i).1 (List.mem_of_mem_take memI), fun i matches_ below => ?_,
    fun n eq => ?_, fun n eq => (last eq).2, fun n eq => ?_⟩
  · have here := (mem i).2 ⟨matches_, below⟩
    rw [← split, List.mem_append] at here
    refine here.imp_right fun later => ?_
    have more : limit < sorted.length := by
      by_contra few
      rw [List.drop_eq_nil_of_le (not_lt.1 few)] at later
      cases later
    have inside : limit - 1 < sorted.length := by omega
    refine ⟨sorted[limit - 1], by simp [more], cross _ ?_ i later⟩
    exact List.mem_take_iff_getElem.2 ⟨limit - 1, by omega, rfl⟩
  · have more := (last eq).1
    simp only [List.length_take]
    omega
  · obtain ⟨more, memN, _⟩ := last eq
    have dropped : sorted[limit] ∈ sorted.drop limit := by
      rw [List.drop_eq_getElem_cons more]
      exact List.mem_cons_self
    obtain ⟨matches_, below⟩ := (mem _).1 (List.mem_of_mem_drop dropped)
    exact ⟨sorted[limit], matches_, below, cross n memN _ dropped⟩

/-- The pages of one walk, the latest first. -/
inductive Walk (limit : ℕ) (start : List ℕ) : List Served → Prop where
  | first {p} : p.table = start → p.cursor = none → p.IsPage limit → Walk limit start [p]
  | next {p q ps c} : Walk limit start (q :: ps) → q.next = some c → Grows q.table p.table →
    p.cursor = some c → p.IsPage limit → Walk limit start (p :: q :: ps)

namespace Walk
variable {limit : ℕ} {start : List ℕ} {p : Served} {ps : List Served}

lemma isPage (walk : Walk limit start ps) : ∀ q ∈ ps, q.IsPage limit := by
  induction walk with
  | first _ _ page => simpa using page
  | next _ _ _ _ page ih => exact List.forall_mem_cons.2 ⟨page, ih⟩

lemma grows (walk : Walk limit start ps) : ∀ q ∈ ps, Grows start q.table := by
  induction walk with
  | first table _ _ => simpa [table] using Grows.refl start
  | next _ _ grows _ _ ih =>
    exact List.forall_mem_cons.2 ⟨(ih _ List.mem_cons_self).trans grows, ih⟩

/-- Whatever is returned was there at the start. -/
lemma mem_start (walk : Walk limit start ps) (there : ∀ q ∈ ps, ∀ i ∈ q.matching, i ∈ q.table) :
    ∀ q ∈ ps, ∀ i ∈ q.ids, i ∈ start := by
  induction walk with
  | first table _ page =>
    simp only [List.mem_singleton, forall_eq] at there ⊢
    exact fun i mem => table ▸ there i (page.sound i mem).1
  | @next p q ps c walk next grows cursor page ih =>
    obtain ⟨own, rest⟩ := List.forall_mem_cons.1 there
    refine List.forall_mem_cons.2 ⟨fun i mem => ?_, ih rest⟩
    obtain ⟨matching, below⟩ := page.sound i mem
    have pageQ := walk.isPage q List.mem_cons_self
    have memC : c ∈ start := ih rest q List.mem_cons_self c (pageQ.last c next).1
    have all := (walk.grows q List.mem_cons_self).trans grows
    exact all.mem_of_lt (own i matching) memC (below c cursor)

/-- What a next request asks for is below everything that was returned. -/
lemma next_le (walk : Walk limit start (p :: ps)) {n : ℕ} (next : p.next = some n) :
    ∀ q ∈ p :: ps, ∀ i ∈ q.ids, n ≤ i := by
  generalize eq : p :: ps = all at walk
  induction walk generalizing p ps n with
  | first _ _ page =>
    obtain ⟨rfl, rfl⟩ := List.cons.inj eq
    simpa using (page.last n next).2
  | @next p' q ps' c walk nextQ _ cursor page ih =>
    obtain ⟨rfl, rfl⟩ := List.cons.inj eq
    have below : n < c := (page.sound n (page.last n next).1).2 c cursor
    exact List.forall_mem_cons.2 ⟨(page.last n next).2, fun q' mem i memI =>
      below.le.trans (ih nextQ rfl q' mem i memI)⟩

/-- The ids of a walk descend. -/
lemma descending (walk : Walk limit start ps) : (ps.reverse.flatMap (·.ids)).Pairwise (· > ·) := by
  induction walk with
  | first _ _ page => simpa using page.descending
  | @next p q ps c walk next _ cursor page ih =>
    rw [List.reverse_cons, List.flatMap_append, List.flatMap_singleton, List.pairwise_append]
    refine ⟨ih, page.descending, fun i memI j memJ => ?_⟩
    obtain ⟨q', memQ, memI⟩ := List.mem_flatMap.1 memI
    exact ((page.sound j memJ).2 c cursor).trans_le
      (walk.next_le next q' (List.mem_reverse.1 memQ) i memI)

/-- Every page but the latest is full. -/
lemma length_flatMap (walk : Walk limit start (p :: ps)) :
    (ps.reverse.flatMap (·.ids)).length = ps.length * limit := by
  generalize eq : p :: ps = all at walk
  induction walk generalizing p ps with
  | first _ _ page =>
    obtain ⟨rfl, rfl⟩ := List.cons.inj eq
    simp
  | @next p' q ps' c walk next _ _ _ ih =>
    obtain ⟨rfl, rfl⟩ := List.cons.inj eq
    rw [List.reverse_cons, List.flatMap_append, List.length_append, ih rfl, List.flatMap_singleton,
      (walk.isPage q List.mem_cons_self).full c next, List.length_cons]
    ring

/-- A walk has no more pages than the table of its start can fill, and one. -/
lemma length_le (walk : Walk limit start (p :: ps))
    (there : ∀ q ∈ p :: ps, ∀ i ∈ q.matching, i ∈ q.table) : ps.length * limit ≤ start.length := by
  have nodup : (ps.reverse.flatMap (·.ids)).Nodup := by
    have all := walk.descending
    rw [List.reverse_cons, List.flatMap_append, List.pairwise_append] at all
    exact all.1.imp fun gt => (ne_of_gt gt)
  have sub : ps.reverse.flatMap (·.ids) ⊆ start := by
    intro i mem
    obtain ⟨q, memQ, memI⟩ := List.mem_flatMap.1 mem
    exact walk.mem_start there q (List.mem_cons_of_mem _ (List.mem_reverse.1 memQ)) i memI
  rw [← walk.length_flatMap]
  exact (nodup.subperm sub).length_le

/-- The pages of a walk cover every id that no next page would. -/
lemma exists_covers (walk : Walk limit start (p :: ps)) {i : ℕ} (passed : ∀ n, p.next = some n → n ≤ i) :
    ∃ q ∈ p :: ps, q.Covers i := by
  generalize eq : p :: ps = all at walk
  induction walk generalizing p ps with
  | @first p' _ cursor _ =>
    obtain ⟨rfl, rfl⟩ := List.cons.inj eq
    exact ⟨p, List.mem_cons_self, ⟨fun c eq => by simp [cursor] at eq, passed⟩⟩
  | @next p' q ps' c walk next _ cursor _ ih =>
    obtain ⟨rfl, rfl⟩ := List.cons.inj eq
    by_cases lt : i < c
    · refine ⟨p, List.mem_cons_self, ⟨fun c' eq => ?_, passed⟩⟩
      obtain rfl := Option.some.inj (cursor.symm.trans eq)
      exact lt
    · obtain ⟨q', mem, covers⟩ := ih (fun n eq => by
        obtain rfl := Option.some.inj (next.symm.trans eq)
        exact not_lt.1 lt) rfl
      exact ⟨q', List.mem_cons_of_mem _ mem, covers⟩

end Walk

end LedgerLoop.Library.Keyset
