import JobScheduling.Proofs.Cron.NextMatch

/-! The search on the wall clock, move by move. A reading that does not match is left at the first of its fields, the
    month first, that is not allowed: for the next allowed value of that field, the finer fields begun anew, or for the
    next value of the coarser field where there is none. Each move goes forward and passes over no match; it fails only
    at the end of the calendar. -/

namespace JobScheduling
namespace Cron
namespace Schedule

open Calendar

/-! ### Moves -/

/-- The beginning of a month, where the calendar goes as far. -/
def beginningOf (y m : Nat) : Outcome Int :=
  if y ≤ maxYear then .ok (reading (Date.mk y m 1).number 0)
  else .error (.badValue ("year " ++ toString y ++ " is out of range"))

/-- The beginning of the next month that is allowed, in the same year or in the next. -/
def laterMonth (s : Schedule) (t : Int) : Outcome Int :=
  match s.months.find? ((dateOf t).month < ·) with
  | some m => beginningOf (dateOf t).year m
  | none => beginningOf ((dateOf t).year + 1) (s.months.head?.getD 1)

/-- The beginning of the next day. -/
def laterDay (t : Int) : Outcome Int := checked (reading (dayOf t + 1) 0)

/-- The first minute and second of the next hour that is allowed, or the beginning of the next day. -/
def laterHour (s : Schedule) (t : Int) : Outcome Int :=
  match s.hours.find? (secondOfDay t / 3600 < ·) with
  | some h => .ok (reading (dayOf t) (h * 3600 + s.firstMinute?.getD 0))
  | none => laterDay t

/-- The first second of the next minute that is allowed, or the beginning of the next hour. -/
def laterMinute (s : Schedule) (t : Int) : Outcome Int :=
  match s.minutes.find? (secondOfDay t / 60 % 60 < ·) with
  | some m => .ok (reading (dayOf t) (secondOfDay t / 3600 * 3600 + m * 60 + s.firstSecond?.getD 0))
  | none => checked (reading (dayOf t) (secondOfDay t / 3600 * 3600) + 3600 * second)

/-- The next second that is allowed, or the beginning of the next minute. -/
def laterSecond (s : Schedule) (t : Int) : Outcome Int :=
  match s.seconds.find? (secondOfDay t % 60 < ·) with
  | some v => .ok (reading (dayOf t) (secondOfDay t / 60 * 60 + v))
  | none => checked (reading (dayOf t) (secondOfDay t / 60 * 60) + 60 * second)

/-- What a search goes on with after a reading, by the first field that is not allowed; nothing if the reading
    matches. -/
def move? (s : Schedule) (t : Int) : Option (Outcome Int) :=
  if (dateOf t).month ∉ s.months then some (s.laterMonth t)
  else if !s.matchesDay (dateOf t) then some (laterDay t)
  else if secondOfDay t / 3600 ∉ s.hours then some (s.laterHour t)
  else if secondOfDay t / 60 % 60 ∉ s.minutes then some (s.laterMinute t)
  else if secondOfDay t % 60 ∉ s.seconds then some (s.laterSecond t)
  else none

variable {s : Schedule} {t t' : Int}

/-! ### What a move does -/

/-- Going on from one reading to another goes forward to a whole second and passes over no match. -/
structure Passes (s : Schedule) (t t' : Int) : Prop where
  forward : t < t'
  whole : t' % second = 0
  least : ∀ q, s.Matches q → t ≤ q → t' ≤ q

/-- What a search may go on with after a reading that does not match: another reading of the calendar, or the failure
    at the end of it, where no match is left. -/
inductive Leaves (s : Schedule) (t : Int) : Outcome Int → Prop
  | forReading {t' : Int} (hpasses : s.Passes t t') (hrange : inRange t' = true) : Leaves s t (.ok t')
  | atEnd (hyear : yearOf t = maxYear) (hnone : ∀ q, s.Matches q → t ≤ q → limit ≤ q) :
      Leaves s t (.error s.beyondCalendar)

section Passes
variable (ht : inRange t = true)
include ht

/-- A move to a time of the same day, or to its end. -/
theorem passes_reading (hw : t % second = 0) {k : Nat} (hlt : secondOfDay t < k) (hday : k ≤ 86400)
    (hleast : ∀ q, s.Matches q → dayOf q = dayOf t → secondOfDay t ≤ secondOfDay q → k ≤ secondOfDay q) :
    s.Passes t (reading (dayOf t) k) := by
  have h0 := (inRange_iff.mp ht).1
  refine ⟨?_, reading_mod_second _ _, fun q hq hle => ?_⟩
  · have hparts := reading_parts h0 hw
    simp only [reading, second, Int.ofNat_eq_natCast] at hparts ⊢
    omega
  · have hparts := reading_parts (Int.le_trans h0 hle) hq.whole
    have hlater := later_of_le h0 hw hq.whole hle
    have hsame := hleast q hq
    simp only [reading, day, second, Int.ofNat_eq_natCast] at hparts ⊢
    omega

/-- A move to the beginning of a later month. -/
theorem passes_beginning {y m : Nat} (hlt : dayOf t < (Date.mk y m 1).number)
    (hleast : ∀ q, s.Matches q → dayOf t ≤ dayOf q → (Date.mk y m 1).number ≤ dayOf q) :
    s.Passes t (reading (Date.mk y m 1).number 0) := by
  have h0 := (inRange_iff.mp ht).1
  refine ⟨lt_of_dayOf_lt (by rwa [dayOf_reading _ (by decide)]), reading_mod_second _ _, fun q hq hle => ?_⟩
  refine reading_le (by decide) (Int.le_trans h0 hle) hq.whole ?_
  exact (Nat.lt_or_eq_of_le (hleast q hq (dayOf_mono hle))).imp_right fun heq => ⟨heq, Nat.zero_le _⟩

end Passes

/-! ### Where a move leads -/

theorem Ordered.firstSecond_lt (hs : s.Ordered) : s.firstSecond?.getD 0 < 60 := by
  rcases (firstSecond?_least hs).getD_or 0 with h | h
  · exact hs.second_lt _ h
  · omega

theorem Ordered.firstMinute_lt (hs : s.Ordered) : s.firstMinute?.getD 0 < 3600 := by
  rcases (firstMinute?_least hs).getD_or 0 with h | h
  · exact hs.minute_lt _ h
  · omega

/-- No match is in an earlier second of its minute than the first. -/
theorem Ordered.firstSecond_le (hs : s.Ordered) {q : Int} (hq : s.Matches q) :
    s.firstSecond?.getD 0 ≤ secondOfDay q % 60 := (firstSecond?_least hs).getD_le 0 hq.second

/-- No match is in an earlier second of its hour than the first. -/
theorem Ordered.firstMinute_le (hs : s.Ordered) {q : Int} (hq : s.Matches q) :
    s.firstMinute?.getD 0 ≤ secondOfDay q % 3600 :=
  (firstMinute?_least hs).getD_le 0 (matches_iff.mp hq).2.2.2

section Move
variable (hs : s.Ordered) (ht : inRange t = true) (hw : t % second = 0)
include ht

/-- A move within a day, or to its end, leads to a reading unless it is the last day. -/
theorem leaves_checked {k : Nat} (hmonth : (dateOf t).month ∈ s.months) (hday : k ≤ 86400)
    (hpasses : s.Passes t (reading (dayOf t) k)) : s.Leaves t (checked (reading (dayOf t) k)) := by
  by_cases hrange : inRange (reading (dayOf t) k) = true
  · rw [checked_of_inRange hrange]
    exact .forReading hpasses hrange
  · have hlimit : limit ≤ reading (dayOf t) k := by
      have := reading_nonneg (dayOf t) k
      rw [inRange_iff] at hrange
      omega
    have hlast : dayOf t = dayCount - 1 := by
      have := inRange_iff.mp ht
      simp only [reading, dayOf, day, second, limit, dayCount, Int.ofNat_eq_natCast] at this hlimit ⊢
      omega
    have hdate : Date.ofNumber (dayCount - 1) = ⟨9999, 12, 31⟩ := by rfl
    have hyear : yearOf t = maxYear := congrArg Date.year (hlast ▸ hdate)
    rw [dateOf, hlast, hdate] at hmonth
    have hbeyond : s.beyondCalendar = .overflow "date value out of range" := if_pos (List.contains_iff_mem.mpr hmonth)
    rw [checked, if_neg hrange, ← hbeyond]
    exact .atEnd hyear fun q hq hle => Int.le_trans hlimit (hpasses.least q hq hle)

/-- A move to the beginning of a month of a later year fails where the year is not in the calendar. -/
theorem leaves_beginning {y m : Nat} (hy : 1 ≤ y) (h1 : 1 ≤ m) (h12 : m ≤ 12)
    (hpasses : s.Passes t (reading (Date.mk y m 1).number 0))
    (hnext : maxYear < y → y = yearOf t + 1 ∧ 12 ∉ s.months) : s.Leaves t (beginningOf y m) := by
  have hyear := yearOf_firstOfMonth hy h1 h12
  have hlimit := yearOf_le_maxYear_iff (r := reading (Date.mk y m 1).number 0)
  rw [hyear] at hlimit
  unfold beginningOf
  by_cases hle : y ≤ maxYear
  · rw [if_pos hle]
    exact .forReading hpasses (inRange_iff.mpr ⟨reading_nonneg _ _, hlimit.mp hle⟩)
  · obtain ⟨heq, hdecember⟩ := hnext (Nat.lt_of_not_le hle)
    have hlast : yearOf t = maxYear := by
      have := yearOf_le_maxYear_iff.mpr (inRange_iff.mp ht).2
      omega
    have hbeyond : s.beyondCalendar = .badValue "year 10000 is out of range" :=
      if_neg fun h => hdecember (List.contains_iff_mem.mp h)
    have htext : "year " ++ toString y ++ " is out of range" = "year 10000 is out of range" := by
      rw [heq, hlast]
      rfl
    rw [if_neg hle, htext, ← hbeyond]
    refine .atEnd hlast fun q hq hq' => Int.le_trans ?_ (hpasses.least q hq hq')
    exact Int.not_lt.mp fun h => hle (hlimit.mpr h)

include hs

/-- Where the month is not allowed, the search goes on with the next month that is. -/
theorem leaves_month (hmonth : (dateOf t).month ∉ s.months) :
    s.Leaves t (s.laterMonth t) := by
  unfold laterMonth
  obtain ⟨hyear, hm1, hm12, -⟩ := ofNumber_spec (dayOf t)
  have hrange : ∀ m ∈ s.months, 1 ≤ m ∧ m ≤ 12 := (hs .month).2
  have hascends : s.months.Pairwise (· < ·) := (hs .month).1
  obtain ⟨m, hfind, hm, hlt, hmin⟩ | ⟨hfind, hnone⟩ := next_cases hascends hmonth <;> rw [hfind]
  · obtain ⟨h1, h12⟩ := hrange m hm
    have hfirst := fun n => number_firstOfMonth_le_iff (n := n) hyear h1 h12
    refine leaves_beginning ht hyear h1 h12 (passes_beginning ht ?_ fun q hq hle => ?_) fun h => ?_
    · refine Nat.lt_of_not_le fun h => ?_
      rcases (hfirst _).mp h with h | ⟨-, h⟩
      · exact absurd h (Nat.lt_irrefl _)
      · exact absurd h (Nat.not_le.mpr hlt)
    · exact (hfirst _).mpr ((month_mono hle).imp_right fun h => ⟨h.1, hmin _ hq.month h.2⟩)
    · exact absurd (yearOf_le_maxYear_iff.mpr (inRange_iff.mp ht).2) (Nat.not_le.mpr h)
  · have hhead : LeastFrom (· ∈ s.months) 0 s.months.head? := leastFrom_head? (hs .month).1
    obtain ⟨h1, h12⟩ : 1 ≤ s.months.head?.getD 1 ∧ s.months.head?.getD 1 ≤ 12 := by
      rcases hhead.getD_or 1 with h | h
      · exact hrange _ h
      · rw [h]
        decide
    have hfirst := fun n => number_firstOfMonth_le_iff (y := (dateOf t).year + 1) (n := n) (by omega) h1 h12
    refine leaves_beginning ht (by omega) h1 h12 (passes_beginning ht ?_ fun q hq hle => ?_)
      fun _ => ⟨rfl, fun h => ?_⟩
    · refine Nat.lt_of_not_le fun h => ?_
      rcases (hfirst _).mp h with h | ⟨h, -⟩
      · exact absurd h (Nat.not_succ_lt_self)
      · exact absurd h (Nat.succ_ne_self _)
    · rw [hfirst]
      rcases month_mono hle with h | ⟨-, h⟩
      · exact (Nat.lt_or_eq_of_le h).imp_right fun h => ⟨h, hhead.getD_le 1 hq.month⟩
      · exact absurd (hnone _ hq.month) (Nat.not_lt.mpr h)
    · exact absurd (hnone 12 h) (Nat.not_lt.mpr hm12)

include hw

omit hs in
/-- Where the day is not allowed, the search goes on with the next day. -/
theorem leaves_day (hmonth : (dateOf t).month ∈ s.months) (hday : s.matchesDay (dateOf t) = false) :
    s.Leaves t (laterDay t) := by
  have hlt := secondOfDay_lt t
  rw [laterDay, ← reading_midnight]
  refine leaves_checked ht hmonth (Nat.le_refl _) (passes_reading ht hw hlt (Nat.le_refl _) fun q hq hsame _ => ?_)
  have := matchesDay_iff.mpr hq.day
  rw [dateOf, hsame, ← dateOf, hday] at this
  cases this

/-- Where the hour is not allowed, the search goes on with the next hour of the day that is, or with the next day. -/
theorem leaves_hour (hmonth : (dateOf t).month ∈ s.months) (hhour : secondOfDay t / 3600 ∉ s.hours) :
    s.Leaves t (s.laterHour t) := by
  unfold laterHour
  have hlt := secondOfDay_lt t
  have hascends : s.hours.Pairwise (· < ·) := (hs .hour).1
  obtain ⟨h, hfind, hh, hlater, hmin⟩ | ⟨hfind, hnone⟩ := next_cases hascends hhour <;> rw [hfind]
  · have hhigh : h ≤ 23 := ((hs .hour).2 h hh).2
    have hfirst := hs.firstMinute_lt
    refine .forReading (passes_reading ht hw (by omega) (by omega) fun q hq _ hsec => ?_)
      (inRange_reading ht (by omega))
    have := hmin _ hq.hour (Nat.div_le_div_right hsec)
    have := hs.firstMinute_le hq
    omega
  · rw [laterDay, ← reading_midnight]
    refine leaves_checked ht hmonth (Nat.le_refl _) (passes_reading ht hw hlt (Nat.le_refl _) fun q hq _ hsec => ?_)
    exact absurd (hnone _ hq.hour) (Nat.not_lt.mpr (Nat.div_le_div_right hsec))

/-- Where the minute is not allowed, the search goes on with the next minute of the hour that is, or with the next
    hour. -/
theorem leaves_minute (hmonth : (dateOf t).month ∈ s.months) (hminute : secondOfDay t / 60 % 60 ∉ s.minutes) :
    s.Leaves t (s.laterMinute t) := by
  unfold laterMinute
  have hlt := secondOfDay_lt t
  have hascends : s.minutes.Pairwise (· < ·) := (hs .minute).1
  obtain ⟨m, hfind, hm, hlater, hmin⟩ | ⟨hfind, hnone⟩ := next_cases hascends hminute <;> rw [hfind]
  · have hhigh : m ≤ 59 := ((hs .minute).2 m hm).2
    have hfirst := hs.firstSecond_lt
    refine .forReading (passes_reading ht hw (by omega) (by omega) fun q hq _ hsec => ?_)
      (inRange_reading ht (by omega))
    have := hmin _ hq.minute
    have := hs.firstSecond_le hq
    omega
  · rw [show (3600 : Int) = Int.ofNat 3600 from rfl, reading_add]
    refine leaves_checked ht hmonth (by omega) (passes_reading ht hw (by omega) (by omega) fun q hq _ hsec => ?_)
    have := hnone _ hq.minute
    omega

/-- Where the second is not allowed, the search goes on with the next second of the minute that is, or with the next
    minute. -/
theorem leaves_second (hmonth : (dateOf t).month ∈ s.months) (hsecond : secondOfDay t % 60 ∉ s.seconds) :
    s.Leaves t (s.laterSecond t) := by
  unfold laterSecond
  have hlt := secondOfDay_lt t
  have hascends : s.seconds.Pairwise (· < ·) := (hs .second).1
  obtain ⟨v, hfind, hv, hlater, hmin⟩ | ⟨hfind, hnone⟩ := next_cases hascends hsecond <;> rw [hfind]
  · have hhigh : v ≤ 59 := ((hs .second).2 v hv).2
    refine .forReading (passes_reading ht hw (by omega) (by omega) fun q hq _ hsec => ?_)
      (inRange_reading ht (by omega))
    have := hmin _ hq.second
    omega
  · rw [show (60 : Int) = Int.ofNat 60 from rfl, reading_add]
    refine leaves_checked ht hmonth (by omega) (passes_reading ht hw (by omega) (by omega) fun q hq _ hsec => ?_)
    have := hnone _ hq.second
    omega

/-- A search that does not go on has found a match. -/
theorem move?_spec : match s.move? t with
    | some o => s.Leaves t o
    | none => s.Matches t := by
  unfold move?
  by_cases hmonth : (dateOf t).month ∈ s.months
  · rw [if_neg (not_not.mpr hmonth)]
    cases hday : s.matchesDay (dateOf t) with
    | false => exact leaves_day ht hw hmonth hday
    | true =>
      rw [if_neg (by decide)]
      by_cases hhour : secondOfDay t / 3600 ∈ s.hours
      · rw [if_neg (not_not.mpr hhour)]
        by_cases hminute : secondOfDay t / 60 % 60 ∈ s.minutes
        · rw [if_neg (not_not.mpr hminute)]
          by_cases hsecond : secondOfDay t % 60 ∈ s.seconds
          · rw [if_neg (not_not.mpr hsecond)]
            exact ⟨hw, hmonth, matchesDay_iff.mp hday, hhour, hminute, hsecond⟩
          · rw [if_pos hsecond]
            exact leaves_second hs ht hw hmonth hsecond
        · rw [if_pos hminute]
          exact leaves_minute hs ht hw hmonth hminute
      · rw [if_pos hhour]
        exact leaves_hour hs ht hw hmonth hhour
  · rw [if_pos hmonth]
    exact leaves_month hs ht hmonth

end Move

end Schedule
end Cron
end JobScheduling
