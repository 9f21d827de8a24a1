import JobScheduling.Proofs.Cron.Occurrence
import JobScheduling.Proofs.Zone.Setback
import JobScheduling.Proofs.Zone.Table
import JobScheduling.Recurring.Trigger

/-! When triggers fire. An occurrence is after its reference in every zone, so a time after a previous one is later
    than it. The first time is looked for after the present less one microsecond, and the present is moved on its own
    wall clock: shortly after that was set back the reference is too early by the length of the overlap, and a
    schedule of every second fires in the past. -/

namespace JobScheduling

open Calendar Offsets

namespace Cron

/-! ### Every second -/

def everySecond : Schedule where
  expression := "* * * * * *"
  seconds := List.range' 0 60
  minutes := List.range' 0 60
  hours := List.range' 0 24
  daysOfMonth := List.range' 1 31
  months := List.range' 1 12
  daysOfWeek := List.range' 0 7
  dayOfMonthRestricted := false
  dayOfWeekRestricted := false

theorem parse_everySecond : parse "* * * * * *" = .ok everySecond := by rfl

theorem everySecond_matches {r : Int} (hw : r % second = 0) : everySecond.Matches r := by
  obtain ⟨-, hm, hm', hd, hd', hnumber⟩ := ofNumber_spec (dayOf r)
  have := daysInMonth_le (Date.ofNumber (dayOf r)).year (Date.ofNumber (dayOf r)).month
  have := secondOfDay_lt r
  refine ⟨hw, ?_, ?_, ?_, ?_, ?_⟩
  · simp only [everySecond, List.mem_range'_1, dateOf]
    omega
  · simp only [Schedule.DayMatches, everySecond, Bool.false_eq_true, and_self, if_false, List.mem_range'_1, dateOf,
      dayOfWeek]
    omega
  all_goals
    simp only [everySecond, List.mem_range'_1]
    omega

theorem firings_utc {r : Int} (hr : inRange r = true) : firings (constant 0) r = .ok [r] := by
  rw [firings_constant spaced_utc hr, Int.sub_zero, checked_of_inRange hr]
  rfl

theorem everySecond_nextMatch {start last : Int} (h0 : 0 ≤ start) (hlimit : start < limit)
    (hw : start % second = 0) (hlast : Int.ofNat (yearOf start) ≤ last) :
    everySecond.nextMatch start last = .ok (some start) :=
  Schedule.nextMatch_of_matches (parse_ordered parse_everySecond) (inRange_iff.mpr ⟨h0, hlimit⟩) hlast
    (everySecond_matches hw)

/-- In UTC every second has an occurrence, as long as the calendar has a next second. -/
theorem everySecond_next {j : Int} (hj : inRange j = true) (hnext : inRange (nextSecond j) = true) :
    everySecond.next (constant 0) j (.int 5) = .ok (nextSecond j) := by
  obtain ⟨h0, hlimit⟩ := inRange_iff.mp hnext
  have hlooks : LooksAt (constant 0) j (.int 5) (nextSecond j) (Int.ofNat (yearOf (nextSecond j)) + 5) :=
    ⟨Outcome.bind_eq_ok.mpr ⟨j, readingOf_utc hj, checked_of_inRange hnext⟩, rfl⟩
  have hmatch := everySecond_nextMatch h0 hlimit (wholeSecond_add_mod j)
    (show Int.ofNat (yearOf (nextSecond j)) ≤ Int.ofNat (yearOf (nextSecond j)) + 5 by omega)
  have hafter : [nextSecond j].find? (j < ·) = some (nextSecond j) :=
    List.find?_cons_of_pos (decide_eq_true (lt_nextSecond j))
  rw [Schedule.next_of_looksAt hlooks]
  exact Schedule.occurrenceFrom_of_find? hmatch (firings_utc hnext) hafter

end Cron

namespace CronTrigger
variable {h : Host} {t : CronTrigger}

/-! ### Fire times -/

theorem search_eq_next {previous now after : TimeValue} {a : Int} (hreference : reference previous now = .ok after)
    (hafter : h.toInstant after (.zone t.zone) = .ok a) :
    t.search h previous now = t.schedule.next t.zone.offsets a t.lookahead := by
  simp only [search, hreference, Outcome.ok_bind, Cron.nextOccurrence_eq_next (Cron.resolve_zone h t.zone) hafter]

theorem nextTime_eq_some {previous now : TimeValue} {u : Int} :
    (t.nextTime h previous now).1 = .ok (some u) ↔ t.search h previous now = .ok u := by
  unfold nextTime
  cases t.search h previous now with
  | ok v => simp only [Except.ok.injEq, Option.some.injEq]
  | error f =>
    simp only
    refine iff_of_false ?_ fun e => nomatch e
    split
    · split <;> exact fun e => nomatch e
    · exact fun e => nomatch e

/-- A trigger is exhausted if its search tells that the schedule is unreachable, and its zone has a name to log. -/
theorem nextTime_eq_none {previous now : TimeValue} : (t.nextTime h previous now).1 = .ok none ↔
    (∃ f, t.search h previous now = .error f ∧ f.isUnreachable = true) ∧ ∃ id, h.zoneId t.zone = .ok id := by
  unfold nextTime
  cases t.search h previous now with
  | ok u => simp
  | error f =>
    cases hf : f.isUnreachable with
    | false => simp [hf]
    | true => cases h.zoneId t.zone <;> simp [hf]

theorem exists_before_first {now : Stamp} {u : Int} (haware : now.isAware = .ok true)
    (hu : t.search h (.value .null) (.stamp now) = .ok u) :
    ∃ s' j, now.plus (-1) = .ok s' ∧ s'.instant = .ok j ∧ j < u := by
  obtain ⟨after, hafter, h₁⟩ := Outcome.bind_eq_ok.mp hu
  obtain ⟨s', hs', h₂⟩ := Outcome.bind_eq_ok.mp hafter
  cases h₂
  obtain ⟨j, hj, hlt⟩ := Cron.lt_nextOccurrence h₁
  obtain ⟨x, hx, -⟩ := Outcome.bind_eq_ok.mp hj
  rw [Stamp.toInstant_of_isAware (Stamp.isAware_of_plus haware hs' hx)] at hj
  exact ⟨s', j, hs', hj, hlt⟩

def everySecondUtc : CronTrigger := ⟨Cron.everySecond, .utc, .int 5⟩

/-- Shortly after the wall clock was set back, a trigger of every second fires in the past. -/
theorem everySecondUtc_early {now : Stamp} {i : Int} (haware : now.isAware = .ok true) (hi : now.instant = .ok i)
    (hback : now.AfterSetback) : ∃ u, everySecondUtc.search h (.value .null) (.stamp now) = .ok u ∧ u < i := by
  obtain ⟨s', i', j, hs', hi', hj, hlt⟩ := hback
  rw [hi] at hi'
  cases hi'
  have hfar := Stamp.second_lt_of_setback haware hs' hi hj hlt
  obtain ⟨x, hx, -⟩ := Outcome.bind_eq_ok.mp hj
  have haware' := Stamp.isAware_of_plus haware hs' hx
  have hiin := Stamp.inRange_of_instant haware hi
  have hjin := Stamp.inRange_of_instant haware' hj
  have hnext : Cron.nextSecond j ≤ j + second := by
    simp only [Cron.nextSecond, wholeSecond, second]
    omega
  have hafter := Cron.lt_nextSecond j
  have hnextin : inRange (Cron.nextSecond j) = true := by
    rw [inRange_iff] at *
    omega
  refine ⟨Cron.nextSecond j, ?_, by omega⟩
  have hinstant := Stamp.toInstant_of_isAware haware' h (.zone .utc)
  rw [hj] at hinstant
  have hreference : reference (.value .null) (.stamp now) = .ok (.stamp s') := by
    simp only [reference, justBefore, hs', Outcome.ok_bind]
  rw [search_eq_next hreference hinstant]
  exact Cron.everySecond_next hjin hnextin

/-- Half past two in the second pass of the night of 25 October 2026. -/
def secondPass : Stamp := ⟨63928492200000000, some summerZone, true⟩

theorem secondPass_afterSetback : secondPass.AfterSetback :=
  (Stamp.afterSetback_iff rfl summerZone_spaced ⟨by decide, by decide⟩).mpr
    (Or.inl ⟨rfl, 63928486800000000, OffsetTable.summerTime_inOverlap⟩)

/-- No trigger fires before the present, exactly if the wall clock of the present was not set back just before; where
    the changes of its zone are spaced, that is if the present is neither in the second pass of an overlap nor at the
    end of one. Every further time of a trigger is later than the one before. -/
theorem fire_time_bounds {now : Stamp} {i : Int} (haware : now.isAware = .ok true) (hi : now.instant = .ok i) :
    ((∀ (t : CronTrigger) (written : String) (u : Int), Cron.parse written = .ok t.schedule →
        (t.nextTime h (.value .null) (.stamp now)).1 = .ok (some u) → i ≤ u) ↔ ¬now.AfterSetback) ∧
      (∀ (zone : Zone) (off : Int → Int), now.zone = some zone → zone.offsets.Spaced off → WellInside now.reading →
        (now.AfterSetback ↔ (now.fold = true ∧ ∃ t, InOverlap off t now.reading) ∨
          ∃ t, InOverlap off t (now.reading - 1) ∧ now.reading = t + off (t - 1))) ∧
      ∀ (t : CronTrigger) (previous : Stamp) (k u : Int) (now' : TimeValue), previous.isAware = .ok true →
        previous.instant = .ok k → (t.nextTime h (.stamp previous) now').1 = .ok (some u) → k < u := by
  refine ⟨⟨fun hall hback => ?_, fun hback t written u _ hu => ?_⟩, fun zone off => Stamp.afterSetback_iff,
    fun t previous k u now' hprevious hk hu => ?_⟩
  · obtain ⟨u, hu, hlt⟩ := everySecondUtc_early (h := h) haware hi hback
    have := hall everySecondUtc _ u Cron.parse_everySecond (nextTime_eq_some.mpr hu)
    omega
  · obtain ⟨s', j, hs', hj, hlt⟩ := exists_before_first haware (nextTime_eq_some.mp hu)
    by_contra hearly
    exact hback ⟨s', i, j, hs', hi, hj, by omega⟩
  · obtain ⟨after, hafter, h₁⟩ := Outcome.bind_eq_ok.mp (nextTime_eq_some.mp hu)
    cases hafter
    obtain ⟨k', hk', hlt⟩ := Cron.lt_nextOccurrence h₁
    rw [Stamp.toInstant_of_isAware hprevious, hk] at hk'
    cases hk'
    exact hlt

/-- In a second pass some trigger fires before the present. -/
theorem fire_time_bounds_secondPass : secondPass.isAware = .ok true ∧ secondPass.instant = .ok 63928488600000000 ∧
    secondPass.AfterSetback ∧
    ¬∀ (t : CronTrigger) (written : String) (u : Int), Cron.parse written = .ok t.schedule →
      (t.nextTime default (.value .null) (.stamp secondPass)).1 = .ok (some u) → 63928488600000000 ≤ u := by
  have haware : secondPass.isAware = .ok true := by rfl
  have hi : secondPass.instant = .ok 63928488600000000 := by rfl
  refine ⟨haware, hi, secondPass_afterSetback, fun hall => ?_⟩
  exact (fire_time_bounds (h := default) haware hi).1.mp hall secondPass_afterSetback

end CronTrigger
end JobScheduling
