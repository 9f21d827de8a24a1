import Mathlib
import JobScheduling.Proofs.Cron.Run

/-! How far apart the occurrences of a schedule are that fires in every hour of the wall clock. The least match after a
    reading is at most one hour ahead of it on the wall clock; in real time the wait is as long, unless the wall clock
    is put back meanwhile. A gap shortens it. An overlap is fired in its first pass only, so the wait that begins in the
    first pass may be longer, but by no more than the clock was put back. -/

namespace JobScheduling
namespace Cron

open Calendar Offsets

/-- One hour. -/
def hour : Int := 3600000000

namespace Schedule

/-! ### Schedules of every hour -/

/-- A schedule that leaves hours and days open: it fires in every hour. -/
structure EveryHour (s : Schedule) : Prop where
  hours : ∀ n ∈ Field.hour.range, n ∈ s.hours
  daysOfMonth : ∀ n ∈ Field.dayOfMonth.range, n ∈ s.daysOfMonth
  months : ∀ n ∈ Field.month.range, n ∈ s.months
  daysOfWeek : ∀ n ∈ Field.dayOfWeek.range, n ∈ s.daysOfWeek
  dayOfMonthOpen : s.dayOfMonthRestricted = false
  dayOfWeekOpen : s.dayOfWeekRestricted = false

variable {s : Schedule} {off : Int → Int}

theorem EveryHour.matches_iff (hs : s.EveryHour) {r : Int} : s.Matches r ↔
    r % Calendar.second = 0 ∧ secondOfDay r / 60 % 60 ∈ s.minutes ∧ secondOfDay r % 60 ∈ s.seconds := by
  refine ⟨fun h => ⟨h.whole, h.minute, h.second⟩, fun ⟨hw, hminute, hsecond⟩ => ?_⟩
  obtain ⟨-, hm, hm', hd, hd', -⟩ := ofNumber_spec (dayOf r)
  have hlast := daysInMonth_le (Date.ofNumber (dayOf r)).year (Date.ofNumber (dayOf r)).month
  have hsec := secondOfDay_lt r
  refine ⟨hw, hs.months _ (Field.mem_range.mpr ⟨hm, hm'⟩), ?_, hs.hours _ (Field.mem_range.mpr ⟨Nat.zero_le _, ?_⟩),
    hminute, hsecond⟩
  · rw [DayMatches, if_neg (by simp [hs.dayOfMonthOpen])]
    refine ⟨hs.daysOfMonth _ (Field.mem_range.mpr ⟨hd, hd'.trans hlast⟩),
      hs.daysOfWeek _ (Field.mem_range.mpr ⟨Nat.zero_le _, ?_⟩)⟩
    simp only [dayOfWeek, Field.high]
    omega
  · simp only [Field.high]
    omega

/-- An hour before a match there is another one. -/
theorem EveryHour.matches_sub (hs : s.EveryHour) {q : Int} (hq : s.Matches q) : s.Matches (q - hour) := by
  have hminute : secondOfDay (q - hour) / 60 % 60 = secondOfDay q / 60 % 60 := by
    simp only [secondOfDay, day, Calendar.second, hour]
    omega
  have hsecond : secondOfDay (q - hour) % 60 = secondOfDay q % 60 := by
    simp only [secondOfDay, day, Calendar.second, hour]
    omega
  rw [hs.matches_iff, hminute, hsecond]
  refine ⟨?_, hq.minute, hq.second⟩
  have := hq.whole
  simp only [Calendar.second, hour] at this ⊢
  omega

theorem EveryHour.le_add_hour (hs : s.EveryHour) {r L : Int} (hL : IsLeast {q | r < q ∧ s.Matches q} L) :
    L ≤ r + hour := by
  by_contra hlt
  have := hL.2 ⟨show r < L - hour by omega, hs.matches_sub hL.1.2⟩
  simp only [hour] at *
  omega

/-! ### Waits -/

/-- The wait from an instant to another one is at most an hour, or as much longer as the clock was put back at some time
    in between. -/
def Within (off : Int → Int) (a u : Int) : Prop :=
  u - a ≤ hour ∨ ∃ v, a < v ∧ v ≤ u ∧ off v < off a ∧ u - a ≤ hour + (off a - off v)

theorem within_of_le {a u v : Int} (hav : a ≤ v) (hvu : v ≤ u) (h : u - a ≤ hour + (off a - off v)) :
    Within off a u := by
  rcases le_or_gt (off a) (off v) with hle | hlt
  · exact Or.inl (by omega)
  · refine Or.inr ⟨v, lt_of_le_of_ne hav ?_, hvu, hlt, h⟩
    rintro rfl
    exact absurd hlt (lt_irrefl _)

theorem Follows.within (hs : s.EveryHour) {a u : Int} (h : s.Follows off a u) : Within off a u := by
  have hau := h.lt
  obtain ⟨L, hL, ⟨-, hreads | hgap⟩, -⟩ := h
  · have := hs.le_add_hour hL
    exact within_of_le hau.le le_rfl (by omega)
  · -- The end of a gap is reached with the offset before it.
    have := hs.le_add_hour hL
    have := hgap.1
    exact within_of_le (v := u - 1) (by omega) (by omega) (by omega)

theorem Run.isChain {a : Int} {us : List Int} (h : s.Run off a us) : (a :: us).IsChain (s.Follows off) := by
  induction h with
  | done a => exact .singleton a
  | step h _ ih => exact .cons_cons h ih

end Schedule

/-! ### Every full hour -/

/-- The schedule of every full hour. -/
def fullHours : Schedule where
  expression := "0 * * * *"
  seconds := [0]
  minutes := [0]
  hours := List.range' 0 24
  daysOfMonth := List.range' 1 31
  months := List.range' 1 12
  daysOfWeek := List.range' 0 7
  dayOfMonthRestricted := false
  dayOfWeekRestricted := false

theorem parse_fullHours : parse "0 * * * *" = .ok fullHours := by rfl

theorem fullHours_everyHour : fullHours.EveryHour where
  hours _ h := h
  daysOfMonth _ h := h
  months _ h := h
  daysOfWeek _ h := h
  dayOfMonthOpen := rfl
  dayOfWeekOpen := rfl

/-- Half past eleven in the night to 25 October 2026 in UTC. -/
theorem summerZone_night :
    Host.toInstant default (.value (.int 1792884600)) (.zone summerZone) = .ok 63928481400000000 := by rfl

set_option maxRecDepth 20000 in
/-- Full hours of the night in which the clock is put back: two o'clock is shown at midnight and at one o'clock of UTC,
    and fires the first time only. -/
theorem occurrences_fullHours :
    occurrences default fullHours (.value (.int 1792884600)) (.zone summerZone) (.int 5) 3 =
      ([63928483200000000, 63928490400000000, 63928494000000000], none) := by cbv

/-- In that night two consecutive full hours are two hours apart. -/
theorem fullHours_two_hours_apart :
    parse "0 * * * *" = .ok fullHours ∧ fullHours.EveryHour ∧
      summerZone.offsets.Spaced OffsetTable.summerTime.offsetAt ∧
      occurrences default fullHours (.value (.int 1792884600)) (.zone summerZone) (.int 5) 3 =
        ([63928483200000000, 63928490400000000, 63928494000000000], none) ∧
      ¬[63928483200000000, 63928490400000000, 63928494000000000].IsChain fun u v : Int => v - u ≤ hour := by
  refine ⟨parse_fullHours, fullHours_everyHour, summerZone_spaced, occurrences_fullHours, fun h => ?_⟩
  exact absurd (List.isChain_cons_cons.mp h).1 (by decide)

section Occurrences
variable {h : Host} {written : String} {s : Schedule} {after : TimeValue} {hint : ZoneHint} {zone : Zone}
  {off : Int → Int} {a : Int} {lookahead : Value} {n : Nat} {us : List Int} {f : Option Fault}

/-- The occurrences of a schedule of every hour, the zone's changes being spaced: from the reference to the first of
    them, and from each to the next one, it is an hour at most, or as much longer as the clock was put back meanwhile. -/
theorem occurrences_within (hs : parse written = .ok s) (hhour : s.EveryHour) (hzone : h.resolve hint = .ok zone)
    (hafter : h.toInstant after (.zone zone) = .ok a) (hoff : zone.offsets.Spaced off)
    (hus : occurrences h s after hint lookahead n = (us, f)) : (a :: us).IsChain (Schedule.Within off) := by
  rw [occurrences_eq hzone hafter] at hus
  have hrun := Schedule.take_run (parse_ordered hs) hoff lookahead n a
  rw [hus] at hrun
  exact hrun.isChain.imp fun _ _ hu => hu.within hhour

end Occurrences

/-- The waits of that night: half an hour, two hours, one of them because the clock was put back by one, then one. -/
theorem occurrences_within_fullHours :
    [63928481400000000, 63928483200000000, 63928490400000000, 63928494000000000].IsChain
      (Schedule.Within OffsetTable.summerTime.offsetAt) :=
  occurrences_within parse_fullHours fullHours_everyHour (resolve_zone default summerZone) summerZone_night
    summerZone_spaced occurrences_fullHours

end Cron
end JobScheduling
