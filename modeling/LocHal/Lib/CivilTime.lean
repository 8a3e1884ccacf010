import Mathlib.Data.Int.Order.Basic
import Mathlib.Data.List.Lex
import Mathlib.Tactic.Common

/-!
# `LocHal.Lib.CivilTime`: calendar times and the seconds that they count

A calendar time is a date of the Gregorian calendar and a time of day, with six numbers as fields.
`seconds` counts from the beginning of 1970. It also accepts a day that the month does not have, and
counts on into the next one.

`seconds_le_iff`: among the times that exist, the order of the seconds is the lexicographic order of
the fields. It comes from one fact for each field, which says that the field below does not run
over: `daysBeforeYear_lt` for the years and `daysBeforeMonth_lt` for the months.

The order of the days is proved field by field. The day of a date is at most the last one of its
month, a later month begins after that, and the last month ends with the year
(`daysBeforeMonth_twelve`). `days_lt_of_date` puts this together, and `seconds_lt` adds the time of
day.

`Valid` is needed for that: a day that the month does not have is counted like one of the next
month, so two different dates would have the same number of days.
-/

set_option autoImplicit false

/-- A date and a time of day. The months count from 0, and the days from 1. -/
structure CivilTime where
  year : Int
  month : Int
  day : Int
  hour : Int
  minute : Int
  second : Int
  deriving DecidableEq, Repr

namespace CivilTime

/-! ### Years -/

/-- The leap years. -/
def isLeap (y : Int) : Bool := y % 4 = 0 && (y % 100 ≠ 0 || y % 400 = 0)

/-- The days of a year. -/
def daysInYear (y : Int) : Int := if isLeap y then 366 else 365

/-- The days from the beginning of 1970 to the beginning of a year. -/
def daysBeforeYear (y : Int) : Int :=
  365 * (y - 1970) + ((y - 1) / 4 - (y - 1) / 100 + (y - 1) / 400) - 477

theorem daysBeforeYear_succ (y : Int) :
    daysBeforeYear (y + 1) = daysBeforeYear y + daysInYear y := by
  unfold daysBeforeYear daysInYear isLeap
  simp only [Bool.and_eq_true, Bool.or_eq_true, decide_eq_true_eq]
  split <;> omega

theorem daysBeforeYear_le {y z : Int} (h : y ≤ z) : daysBeforeYear y ≤ daysBeforeYear z := by
  unfold daysBeforeYear
  omega

/-- A later year begins after the end of the earlier one. -/
theorem daysBeforeYear_lt {y z : Int} (h : y < z) :
    daysBeforeYear y + daysInYear y ≤ daysBeforeYear z := by
  rw [← daysBeforeYear_succ]
  exact daysBeforeYear_le h

/-! ### Months -/

/-- The days of a month. -/
def daysInMonth (leap : Bool) : Nat → Nat
  | 1 => if leap then 29 else 28
  | 3 => 30
  | 5 => 30
  | 8 => 30
  | 10 => 30
  | _ => 31

theorem daysInMonth_le (leap : Bool) (m : Nat) : daysInMonth leap m ≤ 31 := by
  unfold daysInMonth
  split
  · split <;> decide
  all_goals decide

/-- The days from the beginning of the year to the beginning of a month. -/
def daysBeforeMonth (leap : Bool) : Nat → Nat
  | 0 => 0
  | m + 1 => daysBeforeMonth leap m + daysInMonth leap m

/-- A later month begins after the end of the earlier one. -/
theorem daysBeforeMonth_lt {leap : Bool} {m n : Nat} (h : m < n) :
    daysBeforeMonth leap m + daysInMonth leap m ≤ daysBeforeMonth leap n := by
  induction n with
  | zero => exact absurd h (Nat.not_lt_zero m)
  | succ n ih =>
      rw [daysBeforeMonth]
      rcases Nat.lt_succ_iff_lt_or_eq.mp h with hlt | rfl
      · have hle := ih hlt
        omega
      · exact Nat.le_refl _

/-- The last month ends with the year. -/
theorem daysBeforeMonth_twelve (y : Int) :
    (daysBeforeMonth (isLeap y) 12 : Int) = daysInYear y := by
  unfold daysInYear
  cases isLeap y <;> rfl

/-! ### Seconds -/

/-- The days from the beginning of 1970. -/
def days (t : CivilTime) : Int :=
  daysBeforeYear t.year + daysBeforeMonth (isLeap t.year) t.month.toNat + (t.day - 1)

/-- The seconds from the beginning of 1970. -/
def seconds (t : CivilTime) : Int := ((t.days * 24 + t.hour) * 60 + t.minute) * 60 + t.second

/-- The fields, from the most significant one on. -/
def fields (t : CivilTime) : List Int := [t.year, t.month, t.day, t.hour, t.minute, t.second]

/-- The date is in the calendar, and the time of day is on the clock. -/
structure Valid (t : CivilTime) : Prop where
  month_nonneg : 0 ≤ t.month
  month_lt : t.month < 12
  day_pos : 1 ≤ t.day
  day_le : t.day ≤ daysInMonth (isLeap t.year) t.month.toNat
  hour_nonneg : 0 ≤ t.hour
  hour_lt : t.hour < 24
  minute_nonneg : 0 ≤ t.minute
  minute_lt : t.minute < 60
  second_nonneg : 0 ≤ t.second
  second_lt : t.second < 60

variable {t u : CivilTime}

/-- The days of a date are days of its year. -/
theorem Valid.days_lt (ht : t.Valid) :
    daysBeforeYear t.year ≤ t.days ∧ t.days < daysBeforeYear t.year + daysInYear t.year := by
  have hmonth := ht.month_lt
  have hlast : daysBeforeMonth (isLeap t.year) t.month.toNat
      + daysInMonth (isLeap t.year) t.month.toNat ≤ daysBeforeMonth (isLeap t.year) 12 :=
    daysBeforeMonth_lt (by omega)
  have hyear := daysBeforeMonth_twelve t.year
  have hpos := ht.day_pos
  have hle := ht.day_le
  unfold days
  omega

/-- A later date has more days. -/
theorem days_lt_of_date (ht : t.Valid) (hu : u.Valid)
    (h : t.year < u.year ∨
      t.year = u.year ∧ (t.month < u.month ∨ t.month = u.month ∧ t.day < u.day)) :
    t.days < u.days := by
  rcases h with hyear | ⟨hyear, hmonth | ⟨hmonth, hday⟩⟩
  · have hle := daysBeforeYear_lt hyear
    have hlt := ht.days_lt
    have hge := hu.days_lt
    omega
  · have hnonneg := ht.month_nonneg
    have hle : daysBeforeMonth (isLeap t.year) t.month.toNat
        + daysInMonth (isLeap t.year) t.month.toNat
          ≤ daysBeforeMonth (isLeap t.year) u.month.toNat :=
      daysBeforeMonth_lt (by omega)
    have hday := ht.day_le
    have hpos := hu.day_pos
    unfold days
    rw [← hyear]
    omega
  · unfold days
    rw [← hyear, ← hmonth]
    omega

/-- The order of the fields, one after the other. -/
theorem fields_lt_iff :
    t.fields < u.fields ↔ t.year < u.year ∨ t.year = u.year ∧ (t.month < u.month ∨
      t.month = u.month ∧ (t.day < u.day ∨ t.day = u.day ∧ (t.hour < u.hour ∨
        t.hour = u.hour ∧ (t.minute < u.minute ∨ t.minute = u.minute ∧ t.second < u.second)))) := by
  unfold fields
  simp only [List.cons_lt_cons_iff, List.not_lt_nil, and_false, or_false]

/-- A later time has more seconds. -/
theorem seconds_lt (ht : t.Valid) (hu : u.Valid) (h : t.fields < u.fields) :
    t.seconds < u.seconds := by
  have hhour := And.intro ht.hour_lt hu.hour_nonneg
  have hminute := And.intro ht.minute_lt hu.minute_nonneg
  have hsecond := And.intro ht.second_lt hu.second_nonneg
  rw [fields_lt_iff] at h
  -- the dates differ, or the times of one day do
  by_cases hdate : t.year < u.year ∨
      t.year = u.year ∧ (t.month < u.month ∨ t.month = u.month ∧ t.day < u.day)
  · have hdays := days_lt_of_date ht hu hdate
    unfold seconds
    omega
  · have hsame : t.year = u.year ∧ t.month = u.month ∧ t.day = u.day := by omega
    have hdays : t.days = u.days := by
      unfold days
      rw [hsame.1, hsame.2.1, hsame.2.2]
    unfold seconds
    omega

/-- Times with the same fields are the same. -/
theorem eq_of_fields (h : t.fields = u.fields) : t = u := by
  obtain ⟨⟩ := t
  obtain ⟨⟩ := u
  simp only [fields, List.cons.injEq, and_true] at h
  obtain ⟨rfl, rfl, rfl, rfl, rfl, rfl⟩ := h
  rfl

/-- The order of the seconds is the order of the fields. -/
theorem seconds_le_iff (ht : t.Valid) (hu : u.Valid) :
    t.seconds ≤ u.seconds ↔ t.fields ≤ u.fields := by
  rcases lt_trichotomy t.fields u.fields with hlt | heq | hgt
  · exact iff_of_true (Int.le_of_lt (seconds_lt ht hu hlt)) hlt.le
  · rw [eq_of_fields heq]
    exact iff_of_true (Int.le_refl _) le_rfl
  · exact iff_of_false (Int.not_le.mpr (seconds_lt hu ht hgt)) hgt.not_ge

end CivilTime
