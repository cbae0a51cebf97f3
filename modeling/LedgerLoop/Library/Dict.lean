import Mathlib.Tactic

/-!
# Insertion-ordered dictionaries

Python dictionaries as association lists in insertion order, read with `List.lookup`. `firstBy` is the
loop `for a in items: d.setdefault(key(a), a)` and `counter` is `collections.Counter`; both list their
keys once each, in the order of first appearance.
-/

set_option autoImplicit false

namespace LedgerLoop.Library.Dict

variable {κ α β : Type*} [DecidableEq κ]

/-- `d.setdefault(k, v)`. -/
def setdefault (d : List (κ × α)) (k : κ) (v : α) : List (κ × α) :=
  if (d.lookup k).isSome then d else d ++ [(k, v)]

/-- The first item under each key. -/
def firstBy (key : α → κ) : List α → List (κ × α)
  | [] => []
  | a :: items => (key a, a) :: (firstBy key items).filter fun p => p.1 ≠ key a

/-- `Counter(keys)`. -/
def counter (keys : List κ) : List (κ × ℕ) :=
  (firstBy id keys).map fun p => (p.1, keys.count p.1)

lemma mem_firstBy_fst {key : α → κ} {items : List α} {k : κ} :
    k ∈ (firstBy key items).map Prod.fst ↔ ∃ a ∈ items, key a = k := by
  induction items with
  | nil => simp [firstBy]
  | cons a items ih =>
    simp only [List.mem_map, Prod.exists, exists_and_right, exists_eq_right] at ih
    by_cases eq : key a = k
    · simp [firstBy, eq]
    · simp [firstBy, eq, Ne.symm eq, ih]

/-- What is stored under a key is an item with that key. -/
lemma of_mem_firstBy {key : α → κ} {items : List α} {p : κ × α}
    (mem : p ∈ firstBy key items) : p.2 ∈ items ∧ key p.2 = p.1 := by
  induction items with
  | nil => cases mem
  | cons a items ih =>
    simp only [firstBy, List.mem_cons, List.mem_filter] at mem
    rcases mem with rfl | ⟨mem, _⟩
    · exact ⟨List.mem_cons_self, rfl⟩
    · exact ⟨List.mem_cons_of_mem _ (ih mem).1, (ih mem).2⟩

/-- What is stored under a key is the first item with it. -/
lemma find?_of_mem_firstBy {key : α → κ} {items : List α} {p : κ × α}
    (mem : p ∈ firstBy key items) : items.find? (fun a => key a == p.1) = some p.2 := by
  induction items with
  | nil => cases mem
  | cons a items ih =>
    simp only [firstBy, List.mem_cons, List.mem_filter] at mem
    rcases mem with rfl | ⟨mem, other⟩
    · simp
    · have ne : (key a == p.1) = false := by simpa using Ne.symm (of_decide_eq_true other)
      rw [List.find?_cons, ne]
      exact ih mem

/-- The first items of a list that is cut in two. -/
lemma firstBy_append {key : α → κ} {items rest : List α} :
    firstBy key (items ++ rest) =
      firstBy key items ++ (firstBy key rest).filter fun p => ¬∃ a ∈ items, key a = p.1 := by
  induction items with
  | nil => simp [firstBy]
  | cons a items ih =>
    simp only [List.cons_append, firstBy, ih, List.filter_append, List.filter_filter]
    congr 2
    refine List.filter_congr fun p _ => ?_
    simp [eq_comm (a := p.1)]

/-- Every key is listed once. -/
lemma nodup_firstBy (key : α → κ) (items : List α) :
    ((firstBy key items).map Prod.fst).Nodup := by
  induction items with
  | nil => simp [firstBy]
  | cons a items ih =>
    simp only [firstBy, List.map_cons, List.nodup_cons]
    refine ⟨by simp, (List.filter_sublist.map Prod.fst).nodup ih⟩

/-- There are as many keys as the items have. -/
lemma length_firstBy {key : α → κ} {items : List α} :
    (firstBy key items).length = (items.map key).toFinset.card := by
  have same : ((firstBy key items).map Prod.fst).toFinset = (items.map key).toFinset := by
    ext k
    rw [List.mem_toFinset, List.mem_toFinset, mem_firstBy_fst, List.mem_map]
  rw [← same, List.toFinset_card_of_nodup (nodup_firstBy key items), List.length_map]

/-- The keys left when a key is dropped. -/
lemma keys_filter {d : List (κ × α)} {k : κ} :
    (d.filter fun p => p.1 ≠ k).map Prod.fst = (d.map Prod.fst).filter fun k' => k' ≠ k := by
  rw [List.filter_map]
  rfl

/-- The keys are those of the mapped items. -/
lemma firstBy_id_map {key : α → κ} {items : List α} :
    (firstBy id (items.map key)).map Prod.fst = (firstBy key items).map Prod.fst := by
  induction items with
  | nil => rfl
  | cons a items ih => simp only [List.map_cons, firstBy, id_eq, keys_filter, ih]

lemma mem_counter {keys : List κ} {p : κ × ℕ} :
    p ∈ counter keys ↔ p.1 ∈ keys ∧ p.2 = keys.count p.1 := by
  have fst : ∀ k, k ∈ (firstBy id keys).map Prod.fst ↔ k ∈ keys := fun k => by
    simp [mem_firstBy_fst]
  obtain ⟨k, n⟩ := p
  simp only [counter, List.mem_map, Prod.mk.injEq]
  constructor
  · rintro ⟨q, mem, rfl, rfl⟩
    exact ⟨(fst _).1 (List.mem_map_of_mem mem), rfl⟩
  · rintro ⟨mem, rfl⟩
    obtain ⟨q, memQ, rfl⟩ := List.mem_map.1 ((fst k).2 mem)
    exact ⟨q, memQ, rfl, rfl⟩

/-- A counter lists every key once. -/
lemma nodup_counter (keys : List κ) : ((counter keys).map Prod.fst).Nodup := by
  simpa [counter, Function.comp_def] using nodup_firstBy id keys

omit [DecidableEq κ] in
/-- Selecting and rewriting entries under their keys keeps the keys distinct. -/
lemma nodup_filterMap {f : κ × α → Option (κ × β)} {d : List (κ × α)}
    (keeps : ∀ p q, f p = some q → q.1 = p.1) (nd : (d.map Prod.fst).Nodup) :
    ((d.filterMap f).map Prod.fst).Nodup := by
  rw [List.Nodup, List.pairwise_map] at nd ⊢
  refine List.pairwise_filterMap.2 (nd.imp fun {p p'} ne q eq q' eq' same => ne ?_)
  rw [← keeps p q eq, ← keeps p' q' eq', same]

/-- Looking up a key finds an entry under it. -/
lemma mem_of_lookup {d : List (κ × α)} {k : κ} {v : α} (h : d.lookup k = some v) : (k, v) ∈ d := by
  induction d with
  | nil => cases h
  | cons p d ih =>
    obtain ⟨k', v'⟩ := p
    simp only [List.lookup_cons] at h
    split at h
    · rename_i eq
      obtain rfl := Option.some.inj h
      exact (eq_of_beq eq) ▸ List.mem_cons_self
    · exact List.mem_cons_of_mem _ (ih h)

/-- A key is present iff some entry carries it. -/
lemma lookup_isSome {d : List (κ × α)} {k : κ} :
    (d.lookup k).isSome = true ↔ ∃ v, (k, v) ∈ d := by
  constructor
  · intro h
    obtain ⟨v, eq⟩ := Option.isSome_iff_exists.1 h
    exact ⟨v, mem_of_lookup eq⟩
  · rintro ⟨v, mem⟩
    induction d with
    | nil => cases mem
    | cons p d ih =>
      obtain ⟨k', v'⟩ := p
      simp only [List.lookup_cons]
      split
      · rfl
      · rename_i ne
        rcases List.mem_cons.1 mem with eq | mem
        · simp [(Prod.mk.inj eq).1] at ne
        · exact ih mem

/-- With distinct keys, looking up a key finds the entry it is listed with. -/
lemma lookup_of_mem {d : List (κ × α)} {k : κ} {v : α} (nd : (d.map Prod.fst).Nodup)
    (mem : (k, v) ∈ d) : d.lookup k = some v := by
  obtain ⟨v', eq⟩ := Option.isSome_iff_exists.1 (lookup_isSome.2 ⟨v, mem⟩)
  have same : (k, v') = (k, v) := List.inj_on_of_nodup_map nd (mem_of_lookup eq) mem rfl
  rw [eq, (Prod.mk.inj same).2]

/-- Looking up in a dictionary whose values are renamed. -/
lemma lookup_map {f : α → β} {d : List (κ × α)} {k : κ} :
    (d.map fun p => (p.1, f p.2)).lookup k = (d.lookup k).map f := by
  induction d with
  | nil => rfl
  | cons p d ih =>
    obtain ⟨k', v⟩ := p
    simp only [List.map_cons, List.lookup_cons, ih]
    split <;> rfl

lemma lookup_setdefault {d : List (κ × α)} {k k' : κ} {v : α} :
    (setdefault d k v).lookup k' = (d.lookup k').or (if k' = k then some v else none) := by
  unfold setdefault
  split_ifs with present eq eq
  · subst eq
    cases h : d.lookup k' <;> simp_all
  · simp
  · subst eq
    simp [List.lookup_append]
  · have ne : (k' == k) = false := by simpa using eq
    simp [List.lookup_append, List.lookup_cons, ne]

/-- A loop of `setdefault`s keeps what is there and adds the first value of every other key. -/
lemma lookup_foldl_setdefault {key : β → κ} {val : β → α} {items : List β} {d : List (κ × α)}
    {k : κ} :
    (items.foldl (fun d a => setdefault d (key a) (val a)) d).lookup k =
      (d.lookup k).or ((items.find? fun a => key a == k).map val) := by
  induction items generalizing d with
  | nil => simp
  | cons a items ih =>
    rw [List.foldl_cons, ih, lookup_setdefault, List.find?_cons]
    by_cases eq : k = key a
    · subst eq
      cases d.lookup (key a) <;> simp
    · have ne : (key a == k) = false := by simpa using Ne.symm eq
      simp [eq, ne]

end LedgerLoop.Library.Dict
