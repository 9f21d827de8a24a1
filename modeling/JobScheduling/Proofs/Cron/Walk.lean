import JobScheduling.Proofs.Cron.Move
import JobScheduling.Proofs.Cron.Occurrence

/-! Where the moves of a search come to. Each move goes forward and the calendar is bounded, so from every reading the
    moves come to an end, and they end with what the search by days and times of day finds: at the least match, or
    beyond the last year if there is none. -/

namespace JobScheduling
namespace Cron

open Calendar

namespace Schedule

/-! ### Walks -/

/-- A search from a reading on, in the years up to `last`, comes to an end with an outcome. -/
inductive Walks (s : Schedule) (last : Int) : Int → Outcome (Option Int) → Prop
  /-- The reading is in a later year. -/
  | past {t : Int} (hyear : last < Int.ofNat (yearOf t)) : Walks s last t (.ok none)
  /-- The reading matches. -/
  | found {t : Int} (hyear : Int.ofNat (yearOf t) ≤ last) (hmove : s.move? t = none) : Walks s last t (.ok (some t))
  /-- The reading is left for another one, and the search from there on comes to an end. -/
  | moved {t t' : Int} {o : Outcome (Option Int)} (hyear : Int.ofNat (yearOf t) ≤ last)
      (hmove : s.move? t = some (.ok t')) (hrest : Walks s last t' o) : Walks s last t o
  /-- There is no reading to go on with. -/
  | broken {t : Int} {f : Fault} (hyear : Int.ofNat (yearOf t) ≤ last) (hmove : s.move? t = some (.error f)) :
      Walks s last t (.error f)

variable {s : Schedule} {t t' last : Int}

/-! ### The search follows the moves -/

section Search
variable (hs : s.Ordered) (ht : inRange t = true) (hw : t % second = 0) (hyear : Int.ofNat (yearOf t) ≤ last)
include hs ht hw hyear

/-- The next match from a reading on is the one from a later reading on, if there is no match in between. -/
theorem nextMatch_of_passes (hpasses : s.Passes t t') (hrange : inRange t' = true) :
    s.nextMatch t last = s.nextMatch t' last := by
  have hcalendar := yearOf_le_maxYear_iff.mpr (inRange_iff.mp hrange).2
  have hseen : s.Seen t last = s.Seen t' last := Set.ext fun q =>
    ⟨fun ⟨hle, hrest⟩ => ⟨hpasses.least q hrest.2 hle, hrest⟩,
      fun ⟨hle, hrest⟩ => ⟨Int.le_trans (Int.le_of_lt hpasses.forward) hle, hrest⟩⟩
  rcases nextMatch_cases hs (inRange_iff.mp ht).1 hw last with ⟨r, hr, hleast⟩ | ⟨hempty, hnone⟩ <;>
    rcases nextMatch_cases hs (inRange_iff.mp hrange).1 hpasses.whole last with ⟨r', hr', hleast'⟩ | ⟨hempty', hnone'⟩
  · rw [hr, hr', hleast.unique (hseen ▸ hleast')]
  · rw [hseen, hempty'] at hleast
    exact absurd hleast.1 (Set.notMem_empty r)
  · rw [← hseen, hempty] at hleast'
    exact absurd hleast'.1 (Set.notMem_empty r')
  · -- Both fail, or none does: a last year before the year of `t'` is before the end of the calendar.
    rw [hnone, hnone']
    congr 1
    simp only [Int.ofNat_eq_natCast] at *
    exact propext (by omega)

/-- In the last year of the calendar, a search without a match fails. -/
theorem nextMatch_of_atEnd (hlast : yearOf t = maxYear) (hnone : ∀ q, s.Matches q → t ≤ q → limit ≤ q) :
    s.nextMatch t last = .error s.beyondCalendar := by
  rcases nextMatch_cases hs (inRange_iff.mp ht).1 hw last with ⟨r, -, ⟨hle, hseen, hmatch⟩, -⟩ | ⟨-, hempty⟩
  · have hbelow := yearOf_le_maxYear_iff.mp (Int.ofNat_le.mp (Int.le_trans hseen (min_le_right _ _)))
    exact absurd (hnone r hmatch hle) (Int.not_le.mpr hbelow)
  · rw [hempty, if_neg]
    rw [hlast] at hyear ⊢
    omega

end Search

section Walk
variable (hs : s.Ordered)
include hs

/-- From every reading of the calendar the moves come to an end, with what the search by days and times of day finds. -/
theorem walks_nextMatch {t : Int} (ht : inRange t = true) (hw : t % second = 0) :
    s.Walks last t (s.nextMatch t last) := by
  by_cases hyear : Int.ofNat (yearOf t) ≤ last
  · have hspec := move?_spec hs ht hw
    cases hmove : s.move? t with
    | none =>
      rw [hmove] at hspec
      rw [nextMatch_of_matches hs ht hyear hspec]
      exact .found hyear hmove
    | some o =>
      rw [hmove] at hspec
      cases hspec with
      | forReading hpasses hrange =>
        rw [nextMatch_of_passes hs ht hw hyear hpasses hrange]
        exact .moved hyear hmove (walks_nextMatch hrange hpasses.whole)
      | atEnd hlast hnone =>
        rw [nextMatch_of_atEnd hs ht hw hyear hlast hnone]
        exact .broken hyear hmove
  · have hpast := Int.not_le.mp hyear
    rw [nextMatch, if_pos hpast]
    exact .past hpast
termination_by (limit - t).toNat
decreasing_by
  -- Each move goes forward, and the readings of the calendar are bounded.
  have := hpasses.forward
  have := (inRange_iff.mp hrange).2
  omega

/-- The moves come to no other end. -/
theorem Walks.eq_nextMatch {o : Outcome (Option Int)} (h : s.Walks last t o) (ht : inRange t = true)
    (hw : t % second = 0) : o = s.nextMatch t last := by
  induction h with
  | past hyear => rw [nextMatch, if_pos hyear]
  | found hyear hmove =>
    have hspec := move?_spec hs ht hw
    rw [hmove] at hspec
    exact (nextMatch_of_matches hs ht hyear hspec).symm
  | moved hyear hmove hrest ih =>
    have hspec := move?_spec hs ht hw
    rw [hmove] at hspec
    cases hspec with
    | forReading hpasses hrange =>
      rw [nextMatch_of_passes hs ht hw hyear hpasses hrange]
      exact ih hrange hpasses.whole
  | broken hyear hmove =>
    have hspec := move?_spec hs ht hw
    rw [hmove] at hspec
    cases hspec with
    | atEnd hlast hnone => exact (nextMatch_of_atEnd hs ht hw hyear hlast hnone).symm

theorem walks_iff {o : Outcome (Option Int)} (ht : inRange t = true) (hw : t % second = 0) :
    s.Walks last t o ↔ o = s.nextMatch t last :=
  ⟨fun h => h.eq_nextMatch hs ht hw, fun h => h ▸ walks_nextMatch hs ht hw⟩

end Walk

/-! ### The least time -/

/-- The times of the wall clock from `start` on, in a year up to the last, whose fields are allowed. A time need not be
    a whole second. -/
def AllowedTimes (s : Schedule) (start last : Int) : Set Int :=
  {q | start ≤ q ∧ Int.ofNat (yearOf q) ≤ last ∧ (dateOf q).month ∈ s.months ∧ s.DayMatches (dateOf q) ∧
    secondOfDay q / 3600 ∈ s.hours ∧ secondOfDay q / 60 % 60 ∈ s.minutes ∧ secondOfDay q % 60 ∈ s.seconds}

theorem candidates_subset_allowedTimes (start : Int) : s.Candidates start last ⊆ s.AllowedTimes start last :=
  fun _ hq => ⟨hq.1, hq.2.1, hq.2.2.month, hq.2.2.day, hq.2.2.hour, hq.2.2.minute, hq.2.2.second⟩

/-- The second that an allowed time lies in is a candidate. -/
theorem wholeSecond_mem_candidates {start q : Int} (hw : start % second = 0) (hq : q ∈ s.AllowedTimes start last) :
    wholeSecond q ∈ s.Candidates start last := by
  obtain ⟨hle, hyear, hmonth, hday, hhour, hminute, hsecond⟩ := hq
  have hdayOf : dayOf (wholeSecond q) = dayOf q := by
    simp only [dayOf, wholeSecond, day, second]
    omega
  have hsec : secondOfDay (wholeSecond q) = secondOfDay q := by
    simp only [secondOfDay, wholeSecond, day, second]
    omega
  refine ⟨?_, ?_, ?_, ?_, ?_, ?_, ?_, ?_⟩
  · simp only [wholeSecond, second] at hw ⊢
    omega
  · rwa [yearOf, hdayOf]
  · simp only [wholeSecond, second]
    omega
  · rwa [dateOf, hdayOf]
  · rwa [dateOf, hdayOf]
  · rwa [hsec]
  · rwa [hsec]
  · rwa [hsec]

theorem isLeast_allowedTimes_iff {start r : Int} (hw : start % second = 0) :
    IsLeast (s.AllowedTimes start last) r ↔ IsLeast (s.Candidates start last) r := by
  have hle : ∀ q, wholeSecond q ≤ q := fun q => by
    simp only [wholeSecond, second]
    omega
  constructor
  · rintro ⟨hr, hmin⟩
    have hwhole := wholeSecond_mem_candidates hw hr
    have heq : wholeSecond r = r := le_antisymm (hle r) (hmin (candidates_subset_allowedTimes _ hwhole))
    exact ⟨heq ▸ hwhole, fun q hq => hmin (candidates_subset_allowedTimes _ hq)⟩
  · rintro ⟨hr, hmin⟩
    exact ⟨candidates_subset_allowedTimes _ hr, fun q hq =>
      Int.le_trans (hmin (wholeSecond_mem_candidates hw hq)) (hle q)⟩

theorem allowedTimes_eq_empty_iff {start : Int} (hw : start % second = 0) :
    s.AllowedTimes start last = ∅ ↔ s.Candidates start last = ∅ := by
  simp only [Set.eq_empty_iff_forall_notMem]
  exact ⟨fun h q hq => h q (candidates_subset_allowedTimes _ hq), fun h q hq => h _ (wholeSecond_mem_candidates hw hq)⟩

end Schedule

/-- From every whole second of the calendar, and for every last year before the last of the calendar, the moves of the
    search come to an end and do not fail: at the least time from there on that the schedule allows in the years up to
    the last, or with no answer if there is no such time. -/
theorem walk_ends_at_least {written : String} {s : Schedule} {start last : Int} (hs : parse written = .ok s)
    (hstart : inRange start = true) (hwhole : start % second = 0) (hlast : last ≤ 9998) :
    ∃ o, s.nextMatch start last = .ok o ∧ (∀ e, s.Walks last start e ↔ e = .ok o) ∧
      (∀ t, o = some t ↔ IsLeast (s.AllowedTimes start last) t) ∧ (o = none ↔ s.AllowedTimes start last = ∅) := by
  have hs := parse_ordered hs
  have h0 := (inRange_iff.mp hstart).1
  have hwalks : ∀ o, s.nextMatch start last = .ok o → ∀ e, s.Walks last start e ↔ e = .ok o :=
    fun o ho e => ho ▸ Schedule.walks_iff hs hstart hwhole
  have hbelow : last < Int.ofNat maxYear := by
    simp only [maxYear, Int.ofNat_eq_natCast]
    omega
  obtain ⟨r, hr⟩ | ⟨hnone, hempty⟩ := Schedule.nextMatch_total hs h0 hwhole hbelow
  · have hleast := (Schedule.isLeast_allowedTimes_iff hwhole).mpr (Schedule.nextMatch_eq_some hs h0 hwhole hr)
    have hne : s.AllowedTimes start last ≠ ∅ := Set.Nonempty.ne_empty ⟨r, hleast.1⟩
    refine ⟨some r, hr, hwalks _ hr, fun t => ?_, iff_of_false (Option.some_ne_none r) hne⟩
    rw [Option.some.injEq]
    exact ⟨fun h => h ▸ hleast, fun h => hleast.unique h⟩
  · have hempty := (Schedule.allowedTimes_eq_empty_iff hwhole).mpr hempty
    refine ⟨none, hnone, hwalks _ hnone, fun t => iff_of_false (Option.some_ne_none t).symm fun h => ?_,
      iff_of_true rfl hempty⟩
    rw [hempty] at h
    exact Set.notMem_empty t h.1

/-- From one o'clock in the afternoon of 28 March 2026 to half past two of the next night. -/
theorem walk_ends_at_least_nightly : ∃ t, nightly.nextMatch 63910299600000000 2026 = .ok (some t) ∧
    nightly.Walks 2026 63910299600000000 (.ok (some t)) ∧
    IsLeast (nightly.AllowedTimes 63910299600000000 2026) t := by
  obtain ⟨o, hnext, hwalks, hleast, hnone⟩ := walk_ends_at_least parse_nightly
    (show inRange 63910299600000000 = true by decide) (by decide) (show (2026 : Int) ≤ 9998 by decide)
  have hmem : 63910348200000000 ∈ nightly.AllowedTimes 63910299600000000 2026 :=
    Schedule.candidates_subset_allowedTimes _ ⟨by decide, by decide, nightly_matches⟩
  cases o with
  | none => exact absurd (hnone.mp rfl) (Set.Nonempty.ne_empty ⟨_, hmem⟩)
  | some t => exact ⟨t, hnext, (hwalks _).mpr rfl, (hleast t).mp rfl⟩

end Cron
end JobScheduling
