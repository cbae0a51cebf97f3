import LedgerLoop.Library.Decimal

/-!
# Instants and durations

Python's `datetime` and `timedelta` as the program uses them. A `Timedelta` is a whole number of
microseconds. A `Datetime` is a UTC instant that Python can represent, in microseconds since
0001-01-01T00:00:00Z: arithmetic that leaves the years 1 to 9999 raises `OverflowError`, so `Datetime`
carries its range and `Datetime.add` / `Datetime.sub` are partial.

An `AwareDatetime` is what the request models accept: a wall-clock reading in the years 1 to 9999
with a UTC offset of less than a day. Writing it to a `timestamptz` column converts it to UTC, which
can itself leave the range.
-/

set_option autoImplicit false

namespace LedgerLoop
open LedgerLoop.Library

/-- What a statement can raise instead of returning. -/
inductive PyError where
  /-- `OverflowError: date value out of range`. -/
  | dateRange
  /-- An argument that does not fit its column's type. -/
  | dataError (column : String)
  /-- A statement with more arguments than the driver sends. -/
  | interfaceError
  /-- A violated `CHECK` constraint. -/
  | checkViolation (name : String)
  /-- A violated foreign key. -/
  | foreignKeyViolation (name : String)
  /-- A violated unique index. -/
  | uniqueViolation (name : String)
  /-- `.one()` on an empty result. -/
  | noResultFound
  /-- `KeyError`. -/
  | keyError (key : String)
  /-- `ValueError` of `issue_api_key` for a name that a demo account has. -/
  | demoNameTaken (accountName : String)
  /-- `HTTPException` with its status code and detail. -/
  | httpException (statusCode : ℕ) (detail : String)
deriving DecidableEq, Repr

/-- `timedelta`, in microseconds. -/
abbrev Timedelta := ℤ

namespace Timedelta

/-- `timedelta(seconds=n)`. -/
def seconds (n : ℤ) : Timedelta := n * 1000000

/-- `total_seconds()`: one correctly rounded division. -/
def totalSeconds (t : Timedelta) : ℚ := Binary64.nearest ((t : ℚ) / 1000000)

end Timedelta

/-- The first microsecond of the year 10000. -/
def Datetime.horizon : ℤ := 315537897600000000

/-- An instant in the years 1 to 9999, in microseconds. -/
structure Datetime where
  us : ℤ
  nonneg : 0 ≤ us
  bounded : us < Datetime.horizon
deriving DecidableEq, Repr

namespace Datetime

@[ext] lemma ext {a b : Datetime} (h : a.us = b.us) : a = b := by
  cases a; cases b; simp_all

instance : LinearOrder Datetime := LinearOrder.lift' Datetime.us fun _ _ => Datetime.ext

lemma le_iff {a b : Datetime} : a ≤ b ↔ a.us ≤ b.us := Iff.rfl

lemma lt_iff {a b : Datetime} : a < b ↔ a.us < b.us := by
  rw [lt_iff_le_not_ge, le_iff, le_iff]
  omega

/-- The instant `us`, if it is representable. -/
def ofUs (us : ℤ) : Except PyError Datetime :=
  if h : 0 ≤ us ∧ us < horizon then .ok ⟨us, h.1, h.2⟩ else .error .dateRange

/-- `d + t`. -/
def add (d : Datetime) (t : Timedelta) : Except PyError Datetime := ofUs (d.us + t)

/-- `d - t`. -/
def sub (d : Datetime) (t : Timedelta) : Except PyError Datetime := ofUs (d.us - t)

/-- `a - b`. -/
def diff (a b : Datetime) : Timedelta := a.us - b.us

lemma ofUs_eq_ok {us : ℤ} {d : Datetime} : ofUs us = .ok d ↔ d.us = us := by
  unfold ofUs
  split_ifs with h
  · simp [Datetime.ext_iff, eq_comm]
  · simp only [false_iff]
    rintro rfl
    exact h ⟨d.nonneg, d.bounded⟩

lemma ofUs_isOk {us : ℤ} : (∃ d, ofUs us = .ok d) ↔ 0 ≤ us ∧ us < horizon := by
  constructor
  · rintro ⟨d, e⟩
    rw [ofUs_eq_ok] at e
    exact e ▸ ⟨d.nonneg, d.bounded⟩
  · intro h
    exact ⟨⟨us, h.1, h.2⟩, ofUs_eq_ok.2 rfl⟩

/-- 2024-01-01T00:00:00Z and `n` seconds, for concrete runs. -/
def newYear (n : ℕ) : Datetime where
  us := (63839664000 + n % 86400) * 1000000
  nonneg := by omega
  bounded := by unfold horizon; omega

end Datetime

/-- `AwareDatetime`: a wall-clock reading and its offset from UTC. -/
structure AwareDatetime where
  wall : Datetime
  utcoffset : Timedelta
  offset_bounded : |utcoffset| < Timedelta.seconds 86400
deriving DecidableEq, Repr

/-- `astimezone(UTC)`, as the driver applies it to a `timestamptz` argument. -/
def AwareDatetime.toUtc (a : AwareDatetime) : Except PyError Datetime :=
  a.wall.sub a.utcoffset

/-- A UTC reading. -/
def AwareDatetime.utc (d : Datetime) : AwareDatetime := ⟨d, 0, by decide⟩

@[simp] lemma AwareDatetime.toUtc_utc (d : Datetime) : (AwareDatetime.utc d).toUtc = .ok d := by
  simp [AwareDatetime.toUtc, AwareDatetime.utc, Datetime.sub, Datetime.ofUs_eq_ok]

end LedgerLoop
