import JobScheduling.Calendar.Date
import Mathlib.Data.Nat.Init

/-! The day of a number. The numbers of the days before each year and before each month of a year only grow, so
    a number lies in one year and in one month of it. The formula for the year is off by a day or two at most,
    hence its one correction is enough. -/

namespace JobScheduling
namespace Calendar

/-! ### Years -/

theorem daysBeforeYear_add_le {y : Nat} (hy : 1 ≤ y) : daysBeforeYear y + 365 ≤ daysBeforeYear (y + 1) := by
  rw [daysBeforeYear_succ hy]
  split <;> omega

theorem daysBeforeYear_mono {y z : Nat} (hy : 1 ≤ y) (h : y ≤ z) : daysBeforeYear y ≤ daysBeforeYear z := by
  induction z, h using Nat.le_induction with
  | base => exact Nat.le_refl _
  | succ z hyz ih =>
    have := daysBeforeYear_add_le (Nat.le_trans hy hyz)
    omega

theorem yearOfDay_spec (n : Nat) :
    1 ≤ yearOfDay n ∧ daysBeforeYear (yearOfDay n) ≤ n ∧ n < daysBeforeYear (yearOfDay n + 1) := by
  -- The average length of a year never gives a year too late, and one too early by at most one.
  have hlow : daysBeforeYear (400 * n / 146097 + 1) ≤ n := by
    unfold daysBeforeYear
    omega
  have hhigh : n < daysBeforeYear (400 * n / 146097 + 1 + 2) := by
    unfold daysBeforeYear
    omega
  unfold yearOfDay
  dsimp only
  rw [if_neg (by omega)]
  split
  · exact ⟨by omega, by assumption, hhigh⟩
  · exact ⟨by omega, hlow, by omega⟩

theorem yearOfDay_le_iff {n y : Nat} : yearOfDay n ≤ y ↔ n < daysBeforeYear (y + 1) := by
  obtain ⟨h1, hlow, hhigh⟩ := yearOfDay_spec n
  constructor
  · intro h
    exact Nat.lt_of_lt_of_le hhigh (daysBeforeYear_mono (by omega) (by omega))
  · intro h
    apply Nat.le_of_not_lt
    intro hlt
    have := daysBeforeYear_mono (y := y + 1) (z := yearOfDay n) (by omega) hlt
    omega

theorem yearOfDay_eq {n y : Nat} (hy : 1 ≤ y) (hlow : daysBeforeYear y ≤ n) (hhigh : n < daysBeforeYear (y + 1)) :
    yearOfDay n = y := by
  apply Nat.le_antisymm (yearOfDay_le_iff.mpr hhigh)
  apply Nat.le_of_not_lt
  intro hlt
  have := yearOfDay_le_iff.mp (show yearOfDay n ≤ y - 1 by omega)
  rw [Nat.sub_add_cancel hy] at this
  omega

theorem yearOfDay_mono {m n : Nat} (h : m ≤ n) : yearOfDay m ≤ yearOfDay n := by
  rw [yearOfDay_le_iff]
  exact Nat.lt_of_le_of_lt h (yearOfDay_spec n).2.2

/-! ### Months -/

theorem daysBeforeMonth_mono {y a b : Nat} (ha : 1 ≤ a) (h : a ≤ b) (hb : b ≤ 13) :
    daysBeforeMonth y a ≤ daysBeforeMonth y b := by
  induction b, h using Nat.le_induction with
  | base => exact Nat.le_refl _
  | succ b hab ih =>
    rw [daysBeforeMonth_succ (Nat.le_trans ha hab) (by omega)]
    exact Nat.le_trans (ih (by omega)) (Nat.le_add_right _ _)

theorem monthOfDay_spec {y n : Nat} (hn : n < daysBeforeMonth y 13) :
    1 ≤ monthOfDay y n ∧ monthOfDay y n ≤ 12 ∧ daysBeforeMonth y (monthOfDay y n) ≤ n ∧
      n < daysBeforeMonth y (monthOfDay y n + 1) := by
  unfold monthOfDay
  cases hfind : (List.range' 1 11).find? fun m => n < daysBeforeMonth y (m + 1) with
  | none =>
    have hlast := List.find?_eq_none.mp hfind 11 (by decide)
    simp only [decide_eq_true_eq, Nat.not_lt] at hlast
    exact ⟨by decide, by decide, hlast, hn⟩
  | some m =>
    obtain ⟨hm, hmem, hbefore⟩ := List.find?_range'_eq_some.mp hfind
    simp only [decide_eq_true_eq, List.mem_range'_1] at hm hmem
    refine ⟨hmem.1, by simp only [Option.getD_some]; omega, ?_, hm⟩
    -- The month before `m` was passed over, and before the first month there are no days.
    by_cases h1 : m = 1
    · subst h1
      exact Nat.zero_le _
    · have := hbefore (m - 1) (by omega) (by omega)
      simpa [Nat.sub_add_cancel hmem.1] using this

theorem monthOfDay_eq {y m n : Nat} (h1 : 1 ≤ m) (h12 : m ≤ 12) (hlow : daysBeforeMonth y m ≤ n)
    (hhigh : n < daysBeforeMonth y (m + 1)) : monthOfDay y n = m := by
  obtain ⟨g1, g12, glow, ghigh⟩ := monthOfDay_spec
    (Nat.lt_of_lt_of_le hhigh (daysBeforeMonth_mono (by omega) (by omega) (by omega)))
  rcases Nat.lt_trichotomy (monthOfDay y n) m with hlt | heq | hgt
  · have := daysBeforeMonth_mono (y := y) (a := monthOfDay y n + 1) (b := m) (by omega) hlt (by omega)
    omega
  · exact heq
  · have := daysBeforeMonth_mono (y := y) (a := m + 1) (b := monthOfDay y n) (by omega) hgt (by omega)
    omega

/-! ### Days -/

theorem daysBeforeYear_add_thirteen {y : Nat} (hy : 1 ≤ y) :
    daysBeforeYear y + daysBeforeMonth y 13 = daysBeforeYear (y + 1) := by
  rw [daysBeforeYear_succ hy, daysBeforeMonth_thirteen]

/-- The day of a number that lies in a given month. -/
theorem ofNumber_eq {y m n : Nat} (hy : 1 ≤ y) (h1 : 1 ≤ m) (h12 : m ≤ 12)
    (hlow : daysBeforeYear y + daysBeforeMonth y m ≤ n) (hhigh : n < daysBeforeYear y + daysBeforeMonth y (m + 1)) :
    Date.ofNumber n = ⟨y, m, n - daysBeforeYear y - daysBeforeMonth y m + 1⟩ := by
  have h13 := daysBeforeMonth_mono (y := y) (a := m + 1) (b := 13) (by omega) (by omega) (by omega)
  have hyear := daysBeforeYear_add_thirteen hy
  have hy' : yearOfDay n = y := yearOfDay_eq hy (by omega) (by omega)
  have hm : monthOfDay y (n - daysBeforeYear y) = m := monthOfDay_eq h1 h12 (by omega) (by omega)
  simp only [Date.ofNumber, hy', hm]

/-- The month that a number lies in is the one of its day. -/
theorem ofNumber_spec (n : Nat) :
    1 ≤ (Date.ofNumber n).year ∧ 1 ≤ (Date.ofNumber n).month ∧ (Date.ofNumber n).month ≤ 12 ∧
      1 ≤ (Date.ofNumber n).day ∧ (Date.ofNumber n).day ≤ daysInMonth (Date.ofNumber n).year (Date.ofNumber n).month ∧
      (Date.ofNumber n).number = n := by
  obtain ⟨hy, hlow, hhigh⟩ := yearOfDay_spec n
  have hyear := daysBeforeYear_add_thirteen hy
  obtain ⟨h1, h12, mlow, mhigh⟩ := monthOfDay_spec (y := yearOfDay n) (n := n - daysBeforeYear (yearOfDay n)) (by omega)
  rw [daysBeforeMonth_succ h1 h12] at mhigh
  refine ⟨hy, h1, h12, Nat.le_add_left _ _, ?_, ?_⟩ <;>
    simp only [Date.ofNumber, Date.number] <;> omega

/-- The days from a day up to the end of its month are in the same month. -/
theorem month_ofNumber_of_le {n k : Nat} (hle : n ≤ k)
    (hlt : k < n + (daysInMonth (Date.ofNumber n).year (Date.ofNumber n).month - (Date.ofNumber n).day + 1)) :
    (Date.ofNumber k).month = (Date.ofNumber n).month := by
  obtain ⟨hy, h1, h12, hday, hlast, hnumber⟩ := ofNumber_spec n
  have hsucc := daysBeforeMonth_succ (y := (Date.ofNumber n).year) h1 h12
  rw [Date.number] at hnumber
  rw [ofNumber_eq (n := k) hy h1 h12 (by omega) (by omega)]

/-! ### Order -/

/-- A day is not before the first of a month exactly if its year and month are not before that month. -/
theorem number_firstOfMonth_le_iff {y m n : Nat} (hy : 1 ≤ y) (h1 : 1 ≤ m) (h12 : m ≤ 12) :
    (Date.mk y m 1).number ≤ n ↔
      y < (Date.ofNumber n).year ∨ y = (Date.ofNumber n).year ∧ m ≤ (Date.ofNumber n).month := by
  obtain ⟨hyear, hm1, hm12, hday, hlast, hnumber⟩ := ofNumber_spec n
  have hnext := daysBeforeMonth_succ (y := (Date.ofNumber n).year) hm1 hm12
  have hend := daysBeforeMonth_mono (y := (Date.ofNumber n).year) (a := (Date.ofNumber n).month + 1) (b := 13)
    (by omega) (by omega) (by omega)
  have hsum := daysBeforeYear_add_thirteen hyear
  simp only [Date.number] at hnumber ⊢
  rcases Nat.lt_trichotomy y (Date.ofNumber n).year with hlt | rfl | hgt
  · have hyears := daysBeforeYear_mono (y := y + 1) (by omega) hlt
    have hmonths := daysBeforeMonth_mono (y := y) h1 (show m ≤ 13 by omega) (by omega)
    have := daysBeforeYear_add_thirteen hy
    exact iff_of_true (by omega) (Or.inl hlt)
  · rcases Nat.lt_or_ge (Date.ofNumber n).month m with hm | hm
    · have := daysBeforeMonth_mono (y := (Date.ofNumber n).year) (a := (Date.ofNumber n).month + 1) (by omega) hm
        (by omega)
      exact iff_of_false (by omega) (by omega)
    · have := daysBeforeMonth_mono (y := (Date.ofNumber n).year) h1 hm (by omega)
      exact iff_of_true (by omega) (Or.inr ⟨rfl, hm⟩)
  · have := daysBeforeYear_mono (y := (Date.ofNumber n).year + 1) (by omega) hgt
    exact iff_of_false (by omega) (by omega)

/-- A later day is in a later year, or in the same year and no earlier month. -/
theorem month_mono {n k : Nat} (h : n ≤ k) : (Date.ofNumber n).year < (Date.ofNumber k).year ∨
    (Date.ofNumber n).year = (Date.ofNumber k).year ∧ (Date.ofNumber n).month ≤ (Date.ofNumber k).month := by
  obtain ⟨hyear, hm1, hm12, -⟩ := ofNumber_spec n
  exact (number_firstOfMonth_le_iff hyear hm1 hm12).mp
    (Nat.le_trans ((number_firstOfMonth_le_iff hyear hm1 hm12).mpr (Or.inr ⟨rfl, Nat.le_refl _⟩)) h)

end Calendar
end JobScheduling
