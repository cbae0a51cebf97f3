import Mathlib.Tactic

/-!
# Counters that expire

Integer keys with a time to live, as Redis keeps them: `INCR` creates a key at 1 and keeps the expiry of
one that is there, `EXPIRE` sets the expiry, and a key whose time has come reads as absent. A hit is the
two commands as one transaction.

The time is that of the server, in milliseconds. Redis' integers have 64 bits; a counter does not reach
that many hits in its life.
-/

set_option autoImplicit false

namespace LedgerLoop.Library.Expiring

variable {κ : Type*} [DecidableEq κ]

/-- A value and the time from which on it is absent. -/
structure Entry where
  value : ℕ
  expireAt : Option ℕ
deriving DecidableEq, Repr

abbrev Keyspace (κ : Type*) := κ → Option Entry

def Entry.live (now : ℕ) (e : Entry) : Bool := e.expireAt.all (now < ·)

/-- `GET`. -/
def get (d : Keyspace κ) (now : ℕ) (k : κ) : Option Entry := (d k).filter (Entry.live now)

/-- `INCR`, with its reply. -/
def incr (d : Keyspace κ) (now : ℕ) (k : κ) : Keyspace κ × ℕ :=
  match get d now k with
  | some e => (Function.update d k (some { e with value := e.value + 1 }), e.value + 1)
  | none => (Function.update d k (some { value := 1, expireAt := none }), 1)

/-- `EXPIRE`. -/
def expire (d : Keyspace κ) (now : ℕ) (k : κ) (seconds : ℕ) : Keyspace κ :=
  match get d now k with
  | some e => Function.update d k (some { e with expireAt := some (now + seconds * 1000) })
  | none => d

/-- `INCR` and `EXPIRE` in one transaction, with the reply of the first. -/
def hit (d : Keyspace κ) (now : ℕ) (k : κ) (seconds : ℕ) : Keyspace κ × ℕ :=
  let (d', count) := incr d now k
  (expire d' now k seconds, count)

/-- What is stored under a key, expired or not. -/
def stored (d : Keyspace κ) (k : κ) : ℕ := ((d k).map Entry.value).getD 0

/-- A key is there, and its time has come. -/
def Expired (d : Keyspace κ) (now : ℕ) (k : κ) : Prop := ∃ e, d k = some e ∧ e.live now = false

section Specs
variable {d : Keyspace κ} {now seconds : ℕ} {k k' : κ} {e : Entry}

omit [DecidableEq κ] in
/-- What is read is what is there and alive. -/
lemma get_eq_some : get d now k = some e ↔ d k = some e ∧ e.live now = true :=
  Option.filter_eq_some_iff

/-- `EXPIRE` on a key that was just written. -/
lemma expire_update (live : e.live now = true) :
    expire (Function.update d k (some e)) now k seconds =
      Function.update d k (some { e with expireAt := some (now + seconds * 1000) }) := by
  have found : get (Function.update d k (some e)) now k = some e :=
    get_eq_some.2 ⟨Function.update_self .., live⟩
  simp [expire, found]

/-- A hit writes its reply under the key, to live for the time given. -/
lemma hit_fst : (hit d now k seconds).1 = Function.update d k
    (some { value := (hit d now k seconds).2, expireAt := some (now + seconds * 1000) }) := by
  cases found : get d now k with
  | none =>
    have fresh : Entry.live now { value := 1, expireAt := none } = true := rfl
    simp only [hit, incr, found]
    exact expire_update fresh
  | some e =>
    have live : Entry.live now { e with value := e.value + 1 } = true := (get_eq_some.1 found).2
    simp only [hit, incr, found]
    exact expire_update live

lemma hit_self : (hit d now k seconds).1 k =
    some { value := (hit d now k seconds).2, expireAt := some (now + seconds * 1000) } := by
  rw [hit_fst, Function.update_self]

/-- A hit leaves the other keys alone. -/
lemma hit_of_ne (ne : k' ≠ k) : (hit d now k seconds).1 k' = d k' := by
  rw [hit_fst, Function.update_of_ne ne]

lemma stored_hit_self : stored (hit d now k seconds).1 k = (hit d now k seconds).2 := by
  simp [stored, hit_self]

lemma stored_hit_of_ne (ne : k' ≠ k) : stored (hit d now k seconds).1 k' = stored d k' := by
  simp [stored, hit_of_ne ne]

/-- A hit on a key that has not expired counts on. -/
lemma hit_count (alive : ¬Expired d now k) : (hit d now k seconds).2 = stored d k + 1 := by
  cases found : d k with
  | none => simp [hit, incr, get, stored, found]
  | some e =>
    have live : e.live now = true := by
      by_contra dead
      exact alive ⟨e, found, by simpa using dead⟩
    simp [hit, incr, get_eq_some.2 ⟨found, live⟩, stored, found]

end Specs

end LedgerLoop.Library.Expiring
