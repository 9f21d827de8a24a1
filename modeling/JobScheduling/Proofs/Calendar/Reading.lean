import JobScheduling.Calendar.Reading
import JobScheduling.Proofs.Calendar.Day

/-! A whole second of the wall clock is a day and a second of it: the two parts determine the reading, and the
    order of the readings is that of the days, and of the seconds within a day. -/

namespace JobScheduling
namespace Calendar

/-! ### Days and seconds -/

theorem secondOfDay_lt (r : Int) : secondOfDay r < 86400 := by
  simp only [secondOfDay, day, second]
  omega

theorem reading_nonneg (n t : Nat) : 0 ≤ reading n t := by
  simp only [reading, day, second, Int.ofNat_eq_natCast]
  omega

theorem reading_mod_second (n t : Nat) : reading n t % second = 0 := by
  simp only [reading, day, second]
  omega

theorem dayOf_reading (n : Nat) {t : Nat} (ht : t < 86400) : dayOf (reading n t) = n := by
  simp only [dayOf, reading, day, second, Int.ofNat_eq_natCast]
  omega

theorem secondOfDay_reading (n : Nat) {t : Nat} (ht : t < 86400) : secondOfDay (reading n t) = t := by
  simp only [secondOfDay, reading, day, second, Int.ofNat_eq_natCast]
  omega

theorem reading_parts {r : Int} (hr : 0 ≤ r) (hw : r % second = 0) : reading (dayOf r) (secondOfDay r) = r := by
  simp only [dayOf, secondOfDay, reading, day, second, Int.ofNat_eq_natCast] at hw ⊢
  omega

theorem reading_midnight (n : Nat) : reading n 86400 = reading (n + 1) 0 := by
  simp only [reading, day, second, Int.ofNat_eq_natCast]
  omega

theorem reading_add (n k b : Nat) : reading n k + Int.ofNat b * second = reading n (k + b) := by
  simp only [reading, second, Int.ofNat_eq_natCast]
  omega

/-! ### Order -/

theorem dayOf_mono {r q : Int} (h : r ≤ q) : dayOf r ≤ dayOf q := by
  simp only [dayOf, day]
  omega

theorem yearOf_mono {r q : Int} (h : r ≤ q) : yearOf r ≤ yearOf q := yearOfDay_mono (dayOf_mono h)

theorem yearOf_le_iff {r : Int} {y : Nat} : yearOf r ≤ y ↔ dayOf r < daysBeforeYear (y + 1) := yearOfDay_le_iff

theorem lt_of_dayOf_lt {r q : Int} (h : dayOf r < dayOf q) : r < q := by
  simp only [dayOf, day] at h
  omega

theorem le_iff_secondOfDay_le {r q : Int} (hr : 0 ≤ r) (hq : 0 ≤ q) (wr : r % second = 0) (wq : q % second = 0)
    (h : dayOf r = dayOf q) : r ≤ q ↔ secondOfDay r ≤ secondOfDay q := by
  have er := reading_parts hr wr
  have eq := reading_parts hq wq
  rw [h] at er
  simp only [reading, second, Int.ofNat_eq_natCast] at er eq
  omega

/-- The second after the one that a reading lies in is the least whole second beyond it. -/
theorem wholeSecond_add_le_iff {r q : Int} (wq : q % second = 0) : wholeSecond r + second ≤ q ↔ r < q := by
  simp only [wholeSecond, second] at wq ⊢
  omega

theorem wholeSecond_add_mod (r : Int) : (wholeSecond r + second) % second = 0 := by
  simp only [wholeSecond, second]
  omega

/-! ### The years 1 to 9999 -/

theorem inRange_iff {t : Int} : inRange t = true ↔ 0 ≤ t ∧ t < limit := by
  simp only [inRange, Bool.and_eq_true, decide_eq_true_eq]

theorem checked_eq_ok_iff {t u : Int} : checked t = .ok u ↔ inRange t = true ∧ u = t := by
  unfold checked
  by_cases h : inRange t = true
  · rw [if_pos h, Except.ok.injEq]
    exact ⟨fun e => ⟨h, e.symm⟩, fun e => e.2.symm⟩
  · rw [if_neg h]
    constructor
    · intro e
      cases e
    · intro e
      exact absurd e.1 h

theorem checked_of_inRange {t : Int} (h : inRange t = true) : checked t = .ok t := checked_eq_ok_iff.mpr ⟨h, rfl⟩

theorem inRange_reading {t : Int} (ht : inRange t = true) {k : Nat} (hk : k < 86400) :
    inRange (reading (dayOf t) k) = true := by
  rw [inRange_iff] at ht ⊢
  simp only [reading, dayOf, day, second, limit, Int.ofNat_eq_natCast] at ht ⊢
  omega

theorem yearOf_le_maxYear_iff {r : Int} : yearOf r ≤ maxYear ↔ r < limit := by
  have hlimit : daysBeforeYear (maxYear + 1) = 3652059 := by decide
  rw [yearOf_le_iff, hlimit]
  simp only [dayOf, day, limit]
  omega

theorem yearOf_firstOfMonth {y m : Nat} (hy : 1 ≤ y) (h1 : 1 ≤ m) (h12 : m ≤ 12) :
    yearOf (reading (Date.mk y m 1).number 0) = y := by
  have hdays := daysBeforeMonth_succ (y := y) h1 h12
  have := daysInMonth_ge y m
  rw [yearOf, dayOf_reading _ (by decide)]
  exact congrArg Date.year (ofNumber_eq (n := (Date.mk y m 1).number) hy h1 h12 (by simp only [Date.number]; omega)
    (by simp only [Date.number]; omega))

end Calendar
end JobScheduling
