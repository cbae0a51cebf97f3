import Mathlib.Tactic

/-!
# The proleptic Gregorian calendar

Days are counted from 0001-01-01, which is day 0, and milliseconds from its midnight. A `Civil` is a
reading of calendar and clock. `Civil.ofMs` finds the reading of a millisecond and `Civil.toMs` the
millisecond of a reading; they are inverse, for all years, also those before the first.
-/

set_option autoImplicit false

namespace LedgerLoop.Library.Calendar

/-- A year of 366 days. -/
def leap (y : ℤ) : Bool := y % 4 == 0 && (y % 100 != 0 || y % 400 == 0)

/-- The day of the first of January. -/
def yearStart (y : ℤ) : ℤ := 365 * (y - 1) + (y - 1) / 4 - (y - 1) / 100 + (y - 1) / 400

/-- The day of the year of the first of a month; of the next year for month 13. -/
def monthStart (leap : Bool) (m : ℕ) : ℤ :=
  [0, 31, 59, 90, 120, 151, 181, 212, 243, 273, 304, 334, 365].getD (m - 1) 0 +
    if leap && decide (2 < m) then 1 else 0

/-- The year of a day. -/
def yearOf (n : ℤ) : ℤ :=
  let y := 400 * n / 146097 + 1
  if n < yearStart y then y - 1 else if yearStart (y + 1) ≤ n then y + 1 else y

/-- The month of a day of a year. -/
def monthOf (leap : Bool) (d : ℤ) : ℕ := Nat.findGreatest (fun m => monthStart leap m ≤ d) 12

/-- A reading of calendar and clock. -/
structure Civil where
  year : ℤ
  month : ℕ
  day : ℕ
  hour : ℕ
  minute : ℕ
  second : ℕ
  milli : ℕ
deriving DecidableEq, Repr

/-- The reading exists. -/
structure Civil.Valid (c : Civil) : Prop where
  month_pos : 1 ≤ c.month
  month_le : c.month ≤ 12
  day_pos : 1 ≤ c.day
  day_le : monthStart (leap c.year) c.month + c.day ≤ monthStart (leap c.year) (c.month + 1)
  hour : c.hour < 24
  minute : c.minute < 60
  second : c.second < 60
  milli : c.milli < 1000

/-- The day of a reading. -/
def Civil.toDay (c : Civil) : ℤ := yearStart c.year + monthStart (leap c.year) c.month + (c.day - 1)

/-- The millisecond of a reading. -/
def Civil.toMs (c : Civil) : ℤ :=
  c.toDay * 86400000 + (((c.hour * 60 + c.minute) * 60 + c.second) * 1000 + c.milli : ℕ)

/-- The reading of a millisecond. -/
def Civil.ofMs (t : ℤ) : Civil :=
  let n := t / 86400000
  let ms := (t % 86400000).toNat
  let year := yearOf n
  let d := n - yearStart year
  let month := monthOf (leap year) d
  { year := year, month := month, day := (d - monthStart (leap year) month).toNat + 1
    hour := ms / 3600000, minute := ms / 60000 % 60, second := ms / 1000 % 60, milli := ms % 1000 }

example : Civil.ofMs 63839664000001 = ⟨2024, 1, 1, 0, 0, 0, 1⟩ ∧ Civil.ofMs (-1) = ⟨0, 12, 31, 23, 59, 59, 999⟩ := by
  decide

lemma yearStart_succ (y : ℤ) : yearStart (y + 1) = yearStart y + if leap y then 366 else 365 := by
  unfold yearStart leap
  by_cases four : y % 4 = 0 <;> by_cases hundred : y % 100 = 0 <;> by_cases all : y % 400 = 0 <;>
    simp [four, hundred, all] <;> omega

/-- Four hundred years have 146097 days, and the first of January is never far from its share. -/
lemma yearStart_bounds (y : ℤ) :
    146097 * (y - 1) - 699 ≤ 400 * yearStart y ∧ 400 * yearStart y ≤ 146097 * (y - 1) + 396 := by
  unfold yearStart
  omega

/-- The year of a day has begun on that day and not ended. -/
lemma yearOf_spec (n : ℤ) : yearStart (yearOf n) ≤ n ∧ n < yearStart (yearOf n + 1) := by
  unfold yearOf
  dsimp only
  generalize eq : 400 * n / 146097 + 1 = y
  have share : 146097 * (y - 1) ≤ 400 * n ∧ 400 * n < 146097 * y := by omega
  have before := yearStart_bounds (y - 1)
  have after := yearStart_bounds (y + 1 + 1)
  split_ifs with early late
  · rw [sub_add_cancel]
    exact ⟨by omega, early⟩
  · exact ⟨late, by omega⟩
  · exact ⟨not_lt.1 early, not_le.1 late⟩

/-- The month of a day of a year has begun on that day and not ended. -/
lemma monthOf_spec {leap : Bool} {d : ℤ} (nonneg : 0 ≤ d) (lt : d < monthStart leap 13) :
    1 ≤ monthOf leap d ∧ monthOf leap d ≤ 12 ∧ monthStart leap (monthOf leap d) ≤ d ∧
      d < monthStart leap (monthOf leap d + 1) := by
  have first : monthStart leap 1 ≤ d := by cases leap <;> exact nonneg
  have le : monthOf leap d ≤ 12 := Nat.findGreatest_le 12
  refine ⟨Nat.le_findGreatest (by norm_num) first, le, ?_, ?_⟩
  · exact Nat.findGreatest_spec (P := fun m => monthStart leap m ≤ d) (by norm_num) first
  · rcases le.lt_or_eq with before | last
    · exact not_le.1 (Nat.findGreatest_is_greatest (Nat.lt_succ_self _) before)
    · rwa [last]

/-- A month of a day is followed by the next month within the year. -/
lemma ofMs_day (t : ℤ) : let c := Civil.ofMs t
    1 ≤ c.month ∧ c.month ≤ 12 ∧ 1 ≤ c.day ∧ c.toDay = t / 86400000 ∧
      monthStart (leap c.year) c.month + c.day ≤ monthStart (leap c.year) (c.month + 1) := by
  have year := yearOf_spec (t / 86400000)
  rw [yearStart_succ] at year
  have length : monthStart (leap (yearOf (t / 86400000))) 13 =
      if leap (yearOf (t / 86400000)) then 366 else 365 := by
    cases leap (yearOf (t / 86400000)) <;> rfl
  obtain ⟨pos, le, start, stop⟩ := @monthOf_spec (leap (yearOf (t / 86400000)))
    (t / 86400000 - yearStart (yearOf (t / 86400000))) (by omega) (by omega)
  simp only [Civil.ofMs, Civil.toDay]
  exact ⟨pos, le, by omega, by push_cast; omega, by push_cast; omega⟩

/-- What is found is a reading. -/
lemma Civil.valid_ofMs (t : ℤ) : (Civil.ofMs t).Valid := by
  obtain ⟨pos, le, day, _, stop⟩ := ofMs_day t
  have small : (t % 86400000).toNat < 86400000 := by omega
  refine ⟨pos, le, day, stop, ?_, ?_, ?_, ?_⟩ <;> simp only [Civil.ofMs] <;> omega

/-- The reading that is found is that of the millisecond. -/
theorem Civil.toMs_ofMs (t : ℤ) : (Civil.ofMs t).toMs = t := by
  obtain ⟨_, _, _, day, _⟩ := ofMs_day t
  have clock : ((Civil.ofMs t).hour * 60 + (Civil.ofMs t).minute) * 60 + (Civil.ofMs t).second =
      (t % 86400000).toNat / 1000 := by
    simp only [Civil.ofMs]
    omega
  have milli : (Civil.ofMs t).milli = (t % 86400000).toNat % 1000 := rfl
  rw [Civil.toMs, day, clock, milli]
  omega

/-- Months start within the year. -/
lemma monthStart_nonneg (leap : Bool) {m : ℕ} (pos : 1 ≤ m) (le : m ≤ 12) : 0 ≤ monthStart leap m := by
  cases leap <;> interval_cases m <;> decide

lemma monthStart_le (leap : Bool) {m : ℕ} (le : m ≤ 12) :
    monthStart leap (m + 1) ≤ if leap then 366 else 365 := by
  cases leap <;> interval_cases m <;> decide

/-- A reading between the years 1 and 9999 is of one of them. -/
lemma Civil.year_mem {c : Civil} (valid : c.Valid) (lo : 0 ≤ c.toMs) (hi : c.toMs < 315537897600000) :
    1 ≤ c.year ∧ c.year ≤ 9999 := by
  have start := monthStart_nonneg (leap c.year) valid.month_pos valid.month_le
  have stop := valid.day_le.trans (monthStart_le (leap c.year) valid.month_le)
  have next := yearStart_succ c.year
  have day := valid.day_pos
  have clock : ((c.hour * 60 + c.minute) * 60 + c.second) * 1000 + c.milli < 86400000 := by
    have := valid.hour
    have := valid.minute
    have := valid.second
    have := valid.milli
    omega
  rw [Civil.toMs] at lo hi
  have dayLo : 0 ≤ c.toDay := by omega
  have dayHi : c.toDay < 3652059 := by omega
  rw [Civil.toDay] at dayLo dayHi
  constructor
  · by_contra early
    have : yearStart (c.year + 1) ≤ 0 := by
      unfold yearStart
      omega
    omega
  · by_contra late
    have : 3652059 ≤ yearStart c.year := by
      unfold yearStart
      omega
    omega

end LedgerLoop.Library.Calendar
