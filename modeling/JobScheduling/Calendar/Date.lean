/-!
Days of the proleptic Gregorian calendar, from year 1 on. A day is also a number, the days before it since the
first of January of year 1; the two forms are one another's inverse, and the order of the days is the order of
their numbers.
-/

namespace JobScheduling
namespace Calendar

/-- A day by its year, month and day of the month. -/
structure Date where
  year : Nat
  month : Nat
  day : Nat
deriving DecidableEq, Repr, Inhabited

/-! ### Years and months -/

/-- Whether a year has a leap day. -/
def isLeap (y : Nat) : Bool := y % 4 == 0 && (y % 100 != 0 || y % 400 == 0)

/-- The days of a month. -/
def daysInMonth (y : Nat) : Nat → Nat
  | 2 => if isLeap y then 29 else 28
  | 4 | 6 | 9 | 11 => 30
  | _ => 31

/-- The days of the months before a month of the same year; month 13 has the whole year before it. -/
def daysBeforeMonth (y m : Nat) : Nat :=
  let leap := if isLeap y then 1 else 0
  match m with
  | 0 | 1 => 0
  | 2 => 31
  | 3 => 59 + leap
  | 4 => 90 + leap
  | 5 => 120 + leap
  | 6 => 151 + leap
  | 7 => 181 + leap
  | 8 => 212 + leap
  | 9 => 243 + leap
  | 10 => 273 + leap
  | 11 => 304 + leap
  | 12 => 334 + leap
  | _ => 365 + leap

/-- The days of the years before a year. -/
def daysBeforeYear (y : Nat) : Nat :=
  (y - 1) * 365 + (y - 1) / 4 - (y - 1) / 100 + (y - 1) / 400

/-- The first year that dates may have. -/
def minYear : Nat := 1

/-- The last year that dates may have. -/
def maxYear : Nat := 9999

/-- A day that exists in the calendar, in a year from 1 to 9999. -/
def Date.valid (d : Date) : Bool :=
  minYear ≤ d.year && d.year ≤ maxYear && 1 ≤ d.month && d.month ≤ 12 && 1 ≤ d.day &&
    d.day ≤ daysInMonth d.year d.month

/-! ### Day numbers -/

/-- The number of a day. -/
def Date.number (d : Date) : Nat := daysBeforeYear d.year + daysBeforeMonth d.year d.month + (d.day - 1)

/-- The year that holds a day. The average length of a year gives it but for one year. -/
def yearOfDay (n : Nat) : Nat :=
  let y := 400 * n / 146097 + 1
  if n < daysBeforeYear y then y - 1 else if daysBeforeYear (y + 1) ≤ n then y + 1 else y

/-- The month that holds a day of a year, the first day being zero. -/
def monthOfDay (y n : Nat) : Nat :=
  ((List.range' 1 11).find? fun m => n < daysBeforeMonth y (m + 1)).getD 12

/-- The day of a number. -/
def Date.ofNumber (n : Nat) : Date :=
  let y := yearOfDay n
  let m := monthOfDay y (n - daysBeforeYear y)
  ⟨y, m, n - daysBeforeYear y - daysBeforeMonth y m + 1⟩

/-- The day of the week of a day number, Sunday being zero. The first day of the calendar is a Monday. -/
def dayOfWeek (n : Nat) : Nat := (n + 1) % 7

/-- How many days there are up to the end of the last year. -/
def dayCount : Nat := 3652059

/-! ### The two forms of a day -/

theorem succ_div_eq (k n : Nat) :
    (k + 1) / n = k / n + if (k + 1) % n = 0 then 1 else 0 := by
  rw [Nat.succ_div]
  simp only [Nat.dvd_iff_mod_eq_zero]

theorem daysBeforeYear_succ {y : Nat} (hy : 1 ≤ y) :
    daysBeforeYear (y + 1) = daysBeforeYear y + if isLeap y then 366 else 365 := by
  obtain ⟨k, rfl⟩ : ∃ k, y = k + 1 := ⟨y - 1, by omega⟩
  have h4 := succ_div_eq k 4
  have h100 := succ_div_eq k 100
  have h400 := succ_div_eq k 400
  have hle : k / 100 ≤ k / 4 := Nat.div_le_div_left (by decide) (by decide)
  simp only [daysBeforeYear, Nat.add_sub_cancel, isLeap, Bool.and_eq_true, Bool.or_eq_true, beq_iff_eq,
    bne_iff_ne, h4, h100, h400]
  by_cases a : (k + 1) % 4 = 0 <;> by_cases b : (k + 1) % 100 = 0 <;> by_cases c : (k + 1) % 400 = 0 <;>
    simp only [a, b, c, ne_eq, not_true_eq_false, not_false_eq_true, or_false, or_true, and_true,
      and_false, if_true, if_false, Nat.add_zero] <;> omega

theorem daysBeforeMonth_thirteen (y : Nat) :
    daysBeforeMonth y 13 = if isLeap y then 366 else 365 := by
  unfold daysBeforeMonth
  cases isLeap y <;> rfl

theorem daysBeforeMonth_succ {y m : Nat} (h₁ : 1 ≤ m) (h₂ : m ≤ 12) :
    daysBeforeMonth y (m + 1) = daysBeforeMonth y m + daysInMonth y m := by
  obtain rfl | rfl | rfl | rfl | rfl | rfl | rfl | rfl | rfl | rfl | rfl | rfl :
      m = 1 ∨ m = 2 ∨ m = 3 ∨ m = 4 ∨ m = 5 ∨ m = 6 ∨ m = 7 ∨ m = 8 ∨ m = 9 ∨ m = 10 ∨ m = 11 ∨ m = 12 := by
    omega
  all_goals simp [daysBeforeMonth, daysInMonth]
  all_goals cases isLeap y <;> rfl

theorem daysInMonth_le (y m : Nat) : daysInMonth y m ≤ 31 := by
  unfold daysInMonth
  split <;> (try split) <;> decide

theorem daysInMonth_ge (y m : Nat) : 28 ≤ daysInMonth y m := by
  unfold daysInMonth
  split <;> (try split) <;> decide

end Calendar
end JobScheduling
