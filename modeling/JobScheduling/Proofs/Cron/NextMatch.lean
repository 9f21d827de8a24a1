import JobScheduling.Proofs.Calendar.Reading
import JobScheduling.Proofs.Cron.LeastFrom
import JobScheduling.Proofs.Cron.Parsed
import Mathlib.Order.Bounds.Basic

/-! The search on the wall clock finds the least reading that matches. The seconds of a day are searched by hour,
    minute and second; the days one by one, where a month that is not allowed is passed over as a whole, and no
    day of it matches. -/

namespace JobScheduling
namespace Cron
namespace Schedule

open Calendar

/-! ### Matches -/

/-- A day matches the day fields: by either of them if both are restricted, else by both. -/
def DayMatches (s : Schedule) (d : Date) : Prop :=
  if s.dayOfMonthRestricted = true ∧ s.dayOfWeekRestricted = true then
    d.day ∈ s.daysOfMonth ∨ dayOfWeek d.number ∈ s.daysOfWeek
  else d.day ∈ s.daysOfMonth ∧ dayOfWeek d.number ∈ s.daysOfWeek

/-- A reading matches a schedule: it is a whole second whose fields are all allowed. -/
structure Matches (s : Schedule) (r : Int) : Prop where
  whole : r % second = 0
  month : (dateOf r).month ∈ s.months
  day : s.DayMatches (dateOf r)
  hour : secondOfDay r / 3600 ∈ s.hours
  minute : secondOfDay r / 60 % 60 ∈ s.minutes
  second : secondOfDay r % 60 ∈ s.seconds

/-- The matches from `start` on in a year up to the last. -/
def Candidates (s : Schedule) (start last : Int) : Set Int :=
  {q | start ≤ q ∧ Int.ofNat (yearOf q) ≤ last ∧ s.Matches q}

/-- The matches that a search sees, which stops at the end of the calendar if not before. -/
def Seen (s : Schedule) (start last : Int) : Set Int := s.Candidates start (min last (Int.ofNat maxYear))

theorem matchesDay_iff {s : Schedule} {d : Date} : s.matchesDay d = true ↔ s.DayMatches d := by
  unfold matchesDay matchesDayFields DayMatches
  by_cases h : s.dayOfMonthRestricted = true ∧ s.dayOfWeekRestricted = true
  · rw [if_pos (by simpa using h), if_pos h, Bool.or_eq_true, List.contains_iff_mem, List.contains_iff_mem]
  · rw [if_neg (by simpa using h), if_neg h, Bool.and_eq_true, List.contains_iff_mem, List.contains_iff_mem]

variable {s : Schedule}

/-- Where one day of one month is allowed, whatever the day of the week, a match shows that the month has it. -/
theorem Matches.day_le {r : Int} (hr : s.Matches r) {m d : Nat} (hmonths : s.months = [m]) (hdays : s.daysOfMonth = [d])
    (hweek : s.dayOfWeekRestricted = false) : d ≤ daysInMonth (yearOf r) m := by
  obtain ⟨-, -, -, -, hlast, -⟩ := ofNumber_spec (dayOf r)
  have hmonth : (dateOf r).month = m := by simpa [hmonths] using hr.month
  have hday : (dateOf r).day = d := by
    have h := hr.day
    rw [DayMatches, hweek, if_neg (by simp), hdays] at h
    exact List.mem_singleton.mp h.1
  rw [← hmonth, ← hday]
  exact hlast

/-! ### Times of day -/

/-- A second of an hour whose minute and second are allowed. -/
def MinuteMatches (s : Schedule) : Nat → Prop := Composed s.minutes (· ∈ s.seconds) 60

/-- A second of a day whose hour, minute and second are allowed. -/
def TimeMatches (s : Schedule) : Nat → Prop := Composed s.hours s.MinuteMatches 3600

theorem Ordered.second_lt (hs : s.Ordered) : ∀ v, v ∈ s.seconds → v < 60 := fun v hv =>
  Nat.lt_succ_of_le ((hs .second).2 v hv).2

theorem Ordered.minute_lt (hs : s.Ordered) : ∀ v, s.MinuteMatches v → v < 3600 := fun v hv => by
  have := ((hs .minute).2 _ hv.1).2
  simp only [Field.high] at this
  omega

theorem Ordered.time_lt (hs : s.Ordered) {t : Nat} (ht : s.TimeMatches t) : t < 86400 := by
  have := ((hs .hour).2 _ ht.1).2
  simp only [Field.high] at this
  omega

theorem firstSecond?_least (hs : s.Ordered) : LeastFrom (· ∈ s.seconds) 0 s.firstSecond? :=
  leastFrom_head? (hs .second).1

theorem firstMinute?_least (hs : s.Ordered) : LeastFrom s.MinuteMatches 0 s.firstMinute? :=
  (leastFrom_first hs.second_lt (leastFrom_head? (hs .minute).1) (firstSecond?_least hs)).congr fun _ =>
    and_iff_left (Nat.zero_le _)

theorem firstTime?_least (hs : s.Ordered) : LeastFrom s.TimeMatches 0 s.firstTime? :=
  (leastFrom_first hs.minute_lt (leastFrom_head? (hs .hour).1) (firstMinute?_least hs)).congr fun _ =>
    and_iff_left (Nat.zero_le _)

theorem minuteFrom?_least (hs : s.Ordered) (t : Nat) : LeastFrom s.MinuteMatches t (s.minuteFrom? t) :=
  leastFrom_refine (hs .minute).1 hs.second_lt (leastFrom_find? (hs .second).1 (t % 60)) (firstSecond?_least hs)

theorem timeFrom?_least (hs : s.Ordered) (t : Nat) : LeastFrom s.TimeMatches t (s.timeFrom? t) :=
  leastFrom_refine (hs .hour).1 hs.minute_lt (minuteFrom?_least hs (t % 3600)) (firstMinute?_least hs)

/-! ### Days -/

theorem allowsDay_iff {n : Nat} :
    s.allowsDay n = true ↔ (Date.ofNumber n).month ∈ s.months ∧ s.DayMatches (Date.ofNumber n) := by
  have hn := (ofNumber_spec n).2.2.2.2.2
  rw [← matchesDay_iff]
  simp only [allowsDay, matchesDay, hn, Bool.and_eq_true, List.contains_iff_mem]

theorem nextDay?_least (s : Schedule) (limit n : Nat) :
    LeastFrom (fun d => d < limit ∧ s.allowsDay d = true) n (s.nextDay? limit n) := by
  -- A day that is not before `n'` is searched from `n'` on, if no day in between is allowed.
  have hskip : ∀ {n n' : Nat} {o : Option Nat}, (∀ d, s.allowsDay d = true → n ≤ d → n' ≤ d) → n ≤ n' →
      LeastFrom (fun d => d < limit ∧ s.allowsDay d = true) n' o →
      LeastFrom (fun d => d < limit ∧ s.allowsDay d = true) n o := by
    intro n n' o hno hle ho
    cases o with
    | none =>
      intro d hd
      by_contra hnd
      exact absurd (ho d hd) (Nat.not_lt.mpr (hno d hd.2 (Nat.le_of_not_lt hnd)))
    | some m => exact ⟨ho.1, Nat.le_trans hle ho.2.1, fun d hd hnd => ho.2.2 d hd (hno d hd.2 hnd)⟩
  fun_induction s.nextDay? limit n with
  | case1 n hlt d hmonth hday =>
    refine ⟨⟨hlt, ?_⟩, Nat.le_refl _, fun _ _ h => h⟩
    simp only [allowsDay, Bool.and_eq_true]
    exact ⟨hmonth, hday⟩
  | case2 n hlt d hmonth hday ih =>
    refine hskip (fun k hk hnk => Nat.lt_of_le_of_ne hnk fun heq => hday ?_) (Nat.le_succ n) ih
    subst heq
    simp only [allowsDay, Bool.and_eq_true] at hk
    exact hk.2
  | case3 n hlt d hmonth ih =>
    refine hskip (fun k hk hnk => Nat.le_of_not_lt fun hkn => hmonth ?_) (by omega) ih
    simp only [allowsDay, Bool.and_eq_true] at hk
    rw [month_ofNumber_of_le hnk hkn] at hk
    exact hk.1
  | case4 n hlt => exact fun d hd => Nat.lt_of_lt_of_le hd.1 (Nat.le_of_not_lt hlt)

/-! ### Readings -/

theorem matches_iff {r : Int} :
    s.Matches r ↔ r % Calendar.second = 0 ∧ s.allowsDay (dayOf r) = true ∧ s.TimeMatches (secondOfDay r) := by
  have hminute : secondOfDay r % 3600 / 60 = secondOfDay r / 60 % 60 := by omega
  have hsecond : secondOfDay r % 3600 % 60 = secondOfDay r % 60 := by omega
  rw [allowsDay_iff, TimeMatches, Composed, MinuteMatches, Composed, hminute, hsecond]
  constructor
  · intro h
    exact ⟨h.whole, ⟨h.month, h.day⟩, h.hour, h.minute, h.second⟩
  · rintro ⟨hw, ⟨hmonth, hday⟩, hhour, hminute, hsecond⟩
    exact ⟨hw, hmonth, hday, hhour, hminute, hsecond⟩

theorem matches_reading {n t : Nat} (ht : t < 86400) :
    s.Matches (reading n t) ↔ s.allowsDay n = true ∧ s.TimeMatches t := by
  rw [matches_iff, dayOf_reading n ht, secondOfDay_reading n ht]
  exact and_iff_right (reading_mod_second n t)

theorem later_of_le {start q : Int} (h0 : 0 ≤ start) (hw : start % Calendar.second = 0) (hq : q % Calendar.second = 0)
    (h : start ≤ q) : dayOf start < dayOf q ∨ dayOf start = dayOf q ∧ secondOfDay start ≤ secondOfDay q := by
  rcases Nat.lt_or_eq_of_le (dayOf_mono h) with hlt | heq
  · exact Or.inl hlt
  · exact Or.inr ⟨heq, (le_iff_secondOfDay_le h0 (by omega) hw hq heq).mp h⟩

theorem reading_le {n t : Nat} (ht : t < 86400) {q : Int} (h0 : 0 ≤ q) (hq : q % Calendar.second = 0)
    (h : n < dayOf q ∨ n = dayOf q ∧ t ≤ secondOfDay q) : reading n t ≤ q := by
  rcases h with hlt | ⟨heq, hle⟩
  · exact Int.le_of_lt (lt_of_dayOf_lt (by rwa [dayOf_reading n ht]))
  · refine (le_iff_secondOfDay_le (reading_nonneg n t) h0 (reading_mod_second n t) hq ?_).mpr ?_
    · rwa [dayOf_reading n ht]
    · rwa [secondOfDay_reading n ht]

section Search
variable {limit : Nat} {start : Int}

/-- The search of the first day has an answer if a reading of that day matches. -/
theorem today_none (hs : s.Ordered) (h0 : 0 ≤ start) (hw : start % Calendar.second = 0)
    (htoday : (if dayOf start < limit ∧ s.allowsDay (dayOf start) then s.timeFrom? (secondOfDay start) else none) = none)
    {q : Int} (hq : s.Matches q) (hle : start ≤ q) (hlimit : dayOf q < limit) : dayOf start + 1 ≤ dayOf q := by
  obtain ⟨wq, dq, tq⟩ := matches_iff.mp hq
  rcases later_of_le h0 hw wq hle with hlt | ⟨heq, hsec⟩
  · exact hlt
  · rw [if_pos ⟨heq ▸ hlimit, heq ▸ dq⟩] at htoday
    have := timeFrom?_least hs (secondOfDay start)
    rw [htoday] at this
    exact absurd (this _ tq) (by omega)

theorem nextReading?_eq_some (hs : s.Ordered) (h0 : 0 ≤ start) (hw : start % Calendar.second = 0) {r : Int}
    (h : s.nextReading? limit start = some r) :
    dayOf r < limit ∧ IsLeast {q | start ≤ q ∧ s.Matches q} r := by
  unfold nextReading? at h
  dsimp only at h
  split at h
  · rename_i t htoday
    obtain rfl := Option.some.inj h
    rw [ite_eq_iff] at htoday
    obtain ⟨⟨hlimit, hday⟩, htime⟩ | ⟨-, htime⟩ := htoday
    · have hleast := timeFrom?_least hs (secondOfDay start)
      rw [htime] at hleast
      obtain ⟨ht, hle, hmin⟩ := hleast
      have htlt := hs.time_lt ht
      refine ⟨by rwa [dayOf_reading _ htlt], ⟨?_, (matches_reading htlt).mpr ⟨hday, ht⟩⟩, ?_⟩
      · have := reading_le (n := dayOf start) (secondOfDay_lt start) (reading_nonneg (dayOf start) t)
          (reading_mod_second _ _) (Or.inr ⟨(dayOf_reading _ htlt).symm, by rwa [secondOfDay_reading _ htlt]⟩)
        rwa [reading_parts h0 hw] at this
      · rintro q ⟨hq, mq⟩
        obtain ⟨wq, -, tq⟩ := matches_iff.mp mq
        refine reading_le htlt (Int.le_trans h0 hq) wq ?_
        rcases later_of_le h0 hw wq hq with hlt | ⟨heq, hsec⟩
        · exact Or.inl hlt
        · exact Or.inr ⟨heq, hmin _ tq hsec⟩
    · cases htime
  · rename_i htoday
    obtain ⟨d, hd, h⟩ := Option.bind_eq_some_iff.mp h
    obtain ⟨t, ht, rfl⟩ := Option.map_eq_some_iff.mp h
    have hdays := nextDay?_least s limit (dayOf start + 1)
    have htimes := firstTime?_least hs
    rw [hd] at hdays
    rw [ht] at htimes
    obtain ⟨⟨hdlimit, hday⟩, hdn, hdmin⟩ := hdays
    obtain ⟨ht, -, htmin⟩ := htimes
    have htlt := hs.time_lt ht
    refine ⟨by rwa [dayOf_reading _ htlt], ⟨?_, (matches_reading htlt).mpr ⟨hday, ht⟩⟩, ?_⟩
    · exact Int.le_of_lt (lt_of_dayOf_lt (by rwa [dayOf_reading _ htlt]))
    · rintro q ⟨hq, mq⟩
      obtain ⟨wq, dq, tq⟩ := matches_iff.mp mq
      refine reading_le htlt (Int.le_trans h0 hq) wq ?_
      by_cases hlimit : dayOf q < limit
      · rcases Nat.lt_or_eq_of_le (hdmin _ ⟨hlimit, dq⟩ (today_none hs h0 hw htoday mq hq hlimit)) with hlt | heq
        · exact Or.inl hlt
        · exact Or.inr ⟨heq, htmin _ tq (Nat.zero_le _)⟩
      · exact Or.inl (by omega)

theorem nextReading?_eq_none (hs : s.Ordered) (h0 : 0 ≤ start) (hw : start % Calendar.second = 0)
    (h : s.nextReading? limit start = none) {q : Int} (hle : start ≤ q) (hq : s.Matches q) : limit ≤ dayOf q := by
  unfold nextReading? at h
  dsimp only at h
  split at h
  · cases h
  · rename_i htoday
    by_contra hlimit
    have hlimit := Nat.lt_of_not_le hlimit
    have hlater := today_none hs h0 hw htoday hq hle hlimit
    obtain ⟨-, dq, tq⟩ := matches_iff.mp hq
    have hdays := nextDay?_least s limit (dayOf start + 1)
    have htimes := firstTime?_least hs
    cases hd : s.nextDay? limit (dayOf start + 1) with
    | none =>
      rw [hd] at hdays
      exact absurd (hdays _ ⟨hlimit, dq⟩) (by omega)
    | some d =>
      cases ht : s.firstTime? with
      | none =>
        rw [ht] at htimes
        exact absurd (htimes _ tq) (Nat.not_lt_zero _)
      | some t =>
        rw [hd, ht] at h
        cases h

/-- How a search fails that would go on beyond the calendar. -/
def beyondCalendar (s : Schedule) : Fault :=
  if s.months.contains 12 then .overflow "date value out of range" else .badValue "year 10000 is out of range"

theorem beyondCalendar_ne_problem (s : Schedule) (p : Problem) : s.beyondCalendar ≠ .problem p := by
  unfold beyondCalendar
  split <;> exact fun e => nomatch e

/-- A search finds the least match in the years up to the last, as far as the calendar goes. If there is none it has no
    answer, and it fails if the calendar does not go on beyond the last year. -/
theorem nextMatch_cases (hs : s.Ordered) (h0 : 0 ≤ start) (hw : start % Calendar.second = 0) (last : Int) :
    (∃ r, s.nextMatch start last = .ok (some r) ∧ IsLeast (s.Seen start last) r) ∨
      s.Seen start last = ∅ ∧ s.nextMatch start last =
        if last < Int.ofNat (yearOf start) ∨ last < Int.ofNat maxYear then .ok none else .error s.beyondCalendar := by
  by_cases hpast : last < Int.ofNat (yearOf start)
  · refine Or.inr ⟨Set.eq_empty_of_forall_notMem ?_, by rw [nextMatch, if_pos hpast, if_pos (Or.inl hpast)]⟩
    rintro q ⟨hq, hyear, -⟩
    have := yearOf_mono hq
    simp only [Int.ofNat_eq_natCast] at *
    omega
  · rw [nextMatch, if_neg hpast]
    cases hr : s.nextReading? (daysBeforeYear (min last.toNat maxYear + 1)) start with
    | some r =>
      obtain ⟨hlimit, ⟨hle, hmatch⟩, hmin⟩ := nextReading?_eq_some hs h0 hw hr
      have hyear := yearOf_le_iff.mpr hlimit
      refine Or.inl ⟨r, rfl, ⟨hle, ?_, hmatch⟩, fun q hq => hmin ⟨hq.1, hq.2.2⟩⟩
      simp only [Int.ofNat_eq_natCast] at *
      omega
    | none =>
      refine Or.inr ⟨Set.eq_empty_of_forall_notMem ?_, by simp only [or_iff_right hpast, beyondCalendar, apply_ite Except.error]⟩
      rintro q ⟨hq, hyear, mq⟩
      have hlimit := nextReading?_eq_none hs h0 hw hr hq mq
      rw [← Nat.not_lt, ← yearOf_le_iff] at hlimit
      simp only [Int.ofNat_eq_natCast] at *
      omega

/-- The next match is the least one in the years up to the last. -/
theorem nextMatch_eq_some (hs : s.Ordered) (h0 : 0 ≤ start) (hw : start % Calendar.second = 0) {last r : Int}
    (h : s.nextMatch start last = .ok (some r)) : IsLeast (s.Candidates start last) r := by
  rcases nextMatch_cases hs h0 hw last with ⟨r', hr', ⟨hle, hyear, hmatch⟩, hmin⟩ | ⟨-, hnone⟩
  · rw [hr'] at h
    cases h
    refine ⟨⟨hle, Int.le_trans hyear (min_le_left _ _), hmatch⟩, fun q hq => ?_⟩
    -- A match before `r` is in no later year, so the search sees it.
    by_contra hlt
    have := yearOf_mono (Int.not_le.mp hlt).le
    exact hlt (hmin ⟨hq.1, by simp only [Int.ofNat_eq_natCast] at *; omega, hq.2.2⟩)
  · rw [hnone] at h
    split at h <;> cases h

/-- Where the last year is before the last one of the calendar, there is a next match or none at all. -/
theorem nextMatch_total (hs : s.Ordered) (h0 : 0 ≤ start) (hw : start % Calendar.second = 0) {last : Int}
    (hlast : last < Int.ofNat maxYear) :
    (∃ r, s.nextMatch start last = .ok (some r)) ∨
      s.nextMatch start last = .ok none ∧ s.Candidates start last = ∅ := by
  rcases nextMatch_cases hs h0 hw last with ⟨r, hr, -⟩ | ⟨hempty, hnone⟩
  · exact Or.inl ⟨r, hr⟩
  · rw [if_pos (Or.inr hlast)] at hnone
    rw [Seen, min_eq_left hlast.le] at hempty
    exact Or.inr ⟨hnone, hempty⟩

/-- A reading that matches is the next match. -/
theorem nextMatch_of_matches (hs : s.Ordered) (hrange : inRange start = true) {last : Int}
    (hyear : Int.ofNat (yearOf start) ≤ last) (hmatch : s.Matches start) :
    s.nextMatch start last = .ok (some start) := by
  obtain ⟨h0, hlimit⟩ := inRange_iff.mp hrange
  have hseen : start ∈ s.Seen start last :=
    ⟨Int.le_refl _, le_min hyear (Int.ofNat_le.mpr (yearOf_le_maxYear_iff.mpr hlimit)), hmatch⟩
  rcases nextMatch_cases hs h0 hmatch.whole last with ⟨r, hr, hleast⟩ | ⟨hempty, -⟩
  · rw [hr, le_antisymm (hleast.2 hseen) hleast.1.1]
  · exact absurd (hempty ▸ hseen) (Set.notMem_empty start)

end Search

end Schedule
end Cron
end JobScheduling
