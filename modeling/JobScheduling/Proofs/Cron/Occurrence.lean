import JobScheduling.Proofs.Cron.Firing
import JobScheduling.Proofs.Cron.NextMatch
import JobScheduling.Proofs.Value.Access
import JobScheduling.Proofs.Zone.Table

/-! The next occurrence of a schedule in a zone whose changes are spaced is the first instant that serves the least
    match after the reading of the reference. Within the years 2 to 9997 every conversion on the way has an answer, so
    the search fails only if there is no match within the lookahead. -/

namespace JobScheduling
namespace Cron

open Calendar Offsets

/-- The first whole second after a reading. -/
def nextSecond (r : Int) : Int := wholeSecond r + second

theorem nextSecond_le_iff {r q : Int} (hq : q % second = 0) : nextSecond r ≤ q ↔ r < q := wholeSecond_add_le_iff hq

theorem lt_nextSecond (r : Int) : r < nextSecond r := (nextSecond_le_iff (wholeSecond_add_mod r)).mp (Int.le_refl _)

/-! ### Years -/

theorem le_of_two_le_yearOf {r : Int} (h : 2 ≤ yearOf r) : 365 * day ≤ r := by
  have : daysBeforeYear 2 ≤ dayOf r := Nat.le_of_not_lt fun hlt => absurd (yearOf_le_iff.mpr hlt) (by omega)
  have h2 : daysBeforeYear 2 = 365 := by decide
  rw [h2] at this
  simp only [dayOf, day] at this ⊢
  omega

theorem lt_of_yearOf_le {r : Int} (h : yearOf r ≤ 9998) : r < limit - 365 * day := by
  have := yearOf_le_iff.mp h
  have hlast : daysBeforeYear (9998 + 1) = 3651694 := by decide
  rw [hlast] at this
  simp only [dayOf, day, limit] at this ⊢
  omega

theorem yearOf_nextSecond_le (r : Int) : yearOf (nextSecond r) ≤ yearOf r + 1 := by
  have hr := yearOf_le_iff.mp (Nat.le_refl (yearOf r))
  have hnext : dayOf (nextSecond r) ≤ dayOf r + 1 := by
    simp only [dayOf, day, nextSecond, wholeSecond, second]
    omega
  have := daysBeforeYear_add_le (y := yearOf r + 1) (by omega)
  exact yearOf_le_iff.mpr (by omega)

/-! ### In every zone -/

/-- After an instant the readings from `start` to the end of the year `last` are looked at. -/
structure LooksAt (z : Offsets) (a : Int) (lookahead : Value) (start last : Int) : Prop where
  begins : (z.readingOf a >>= fun r => checked (nextSecond r)) = .ok start
  ends : lastYear (yearOf start) lookahead = .ok last

theorem resolve_zone (h : Host) (z : Zone) : h.resolve (.zone z) = .ok z := rfl

section After
variable {s : Schedule} {z : Offsets} {lookahead : Value} {a last start u : Int}

/-- Whatever the zone answers, an occurrence is after the reference. -/
theorem Schedule.occurrenceFrom_lt (h : s.occurrenceFrom z lookahead a last start = .ok u) : a < u := by
  induction hn : (limit - start).toNat using Nat.strong_induction_on generalizing start with
  | h n ih =>
    rw [occurrenceFrom] at h
    obtain ⟨found, -, h₁⟩ := Outcome.bind_eq_ok.mp h
    cases found with
    | none =>
      obtain ⟨_, -, h₂⟩ := Outcome.bind_eq_ok.mp h₁
      cases h₂
    | some r =>
      obtain ⟨us, -, h₂⟩ := Outcome.bind_eq_ok.mp h₁
      cases hfind : us.find? (a < ·) with
      | some v =>
        rw [hfind] at h₂
        cases h₂
        simpa using List.find?_some hfind
      | none =>
        rw [hfind] at h₂
        obtain ⟨next, -, h₃⟩ := Outcome.bind_eq_ok.mp h₂
        split at h₃
        · exact ih _ (by omega) h₃ rfl
        · cases h₃

theorem Schedule.occurrenceFrom_of_find? {r : Int} {us : List Int} (hr : s.nextMatch start last = .ok (some r))
    (hus : firings z r = .ok us) (hu : us.find? (a < ·) = some u) :
    s.occurrenceFrom z lookahead a last start = .ok u := by
  rw [occurrenceFrom]
  simp only [hr, hus, hu, Outcome.ok_bind]

theorem LooksAt.whole (h : LooksAt z a lookahead start last) : 0 ≤ start ∧ start % second = 0 := by
  obtain ⟨r, -, hstart⟩ := Outcome.bind_eq_ok.mp h.begins
  obtain ⟨hin, rfl⟩ := checked_eq_ok_iff.mp hstart
  exact ⟨(inRange_iff.mp hin).1, wholeSecond_add_mod r⟩

theorem LooksAt.unique {start' last' : Int} (h : LooksAt z a lookahead start last) (h' : LooksAt z a lookahead start' last') :
    start = start' ∧ last = last' := by
  obtain rfl := Except.ok.inj (h.begins.symm.trans h'.begins)
  exact ⟨rfl, Except.ok.inj (h.ends.symm.trans h'.ends)⟩

theorem Schedule.next_of_looksAt (h : LooksAt z a lookahead start last) :
    s.next z a lookahead = s.occurrenceFrom z lookahead a last start := by
  obtain ⟨r, hr, hstart⟩ := Outcome.bind_eq_ok.mp h.begins
  rw [nextSecond] at hstart
  simp only [next, hr, hstart, h.ends, Outcome.ok_bind]

theorem Schedule.next_eq_ok_iff : s.next z a lookahead = .ok u ↔
    ∃ start last, LooksAt z a lookahead start last ∧ s.occurrenceFrom z lookahead a last start = .ok u := by
  constructor
  · intro h
    obtain ⟨r, hr, h₁⟩ := Outcome.bind_eq_ok.mp h
    obtain ⟨start, hstart, h₂⟩ := Outcome.bind_eq_ok.mp h₁
    obtain ⟨last, hlast, h₃⟩ := Outcome.bind_eq_ok.mp h₂
    exact ⟨start, last, ⟨Outcome.bind_eq_ok.mpr ⟨r, hr, hstart⟩, hlast⟩, h₃⟩
  · rintro ⟨start, last, hlooks, h⟩
    rwa [next_of_looksAt hlooks]

theorem Schedule.next_lt (h : s.next z a lookahead = .ok u) : a < u := by
  obtain ⟨_, _, -, hu⟩ := next_eq_ok_iff.mp h
  exact occurrenceFrom_lt hu

theorem nextOccurrence_eq_ok {h : Host} {after : TimeValue} {zone : Zone} :
    nextOccurrence h s after (.zone zone) lookahead = .ok u ↔
      ∃ a, h.toInstant after (.zone zone) = .ok a ∧ s.next zone.offsets a lookahead = .ok u := by
  rw [nextOccurrence, resolve_zone, Outcome.ok_bind, Outcome.bind_eq_ok]

theorem nextOccurrence_eq_next {h : Host} {after : TimeValue} {hint : ZoneHint} {zone : Zone}
    (hzone : h.resolve hint = .ok zone) (hafter : h.toInstant after (.zone zone) = .ok a) :
    nextOccurrence h s after hint lookahead = s.next zone.offsets a lookahead := by
  simp only [nextOccurrence, hzone, hafter, Outcome.ok_bind]

theorem lt_nextOccurrence {h : Host} {after : TimeValue} {zone : Zone}
    (hu : nextOccurrence h s after (.zone zone) lookahead = .ok u) :
    ∃ a, h.toInstant after (.zone zone) = .ok a ∧ a < u := by
  obtain ⟨a, ha, hnext⟩ := nextOccurrence_eq_ok.mp hu
  exact ⟨a, ha, Schedule.next_lt hnext⟩

end After

/-- Within the years 2 to 9998 every instant is one that can be looked on from. -/
theorem looksAt_of_spaced {z : Offsets} {off : Int → Int} (hz : z.Spaced off) {a : Int} (n : Int)
    (hyear : 2 ≤ yearOf (a + off a)) (hyear' : yearOf (a + off a) ≤ 9998) :
    LooksAt z a (.int n) (nextSecond (a + off a)) (Int.ofNat (yearOf (nextSecond (a + off a))) + n) where
  begins := by
    have hlow := le_of_two_le_yearOf hyear
    have hhigh := lt_of_yearOf_le hyear'
    have hnext : nextSecond (a + off a) ≤ a + off a + second := by
      simp only [nextSecond, wholeSecond, second]
      omega
    have hlt := lt_nextSecond (a + off a)
    have hread : inRange (a + off a) = true := inRange_iff.mpr (by simp only [day] at *; omega)
    refine Outcome.bind_eq_ok.mpr ⟨_, hz.readingOf_eq_ok.mpr ⟨hread, rfl⟩, checked_of_inRange (inRange_iff.mpr ?_)⟩
    simp only [day, second] at *
    omega
  ends := rfl

namespace Schedule

section Next
variable {s : Schedule} (hs : s.Ordered) {z : Offsets} {off : Int → Int} (hz : z.Spaced off) {a : Int}
include hs hz

/-! ### The search from a reading on -/

section From
variable {lookahead : Value} {last start : Int} (h0 : 0 ≤ start) (hw : start % Calendar.second = 0)
  (ha : a + off a < start)
include h0 hw ha

/-- What is found is the first instant after `a` that serves the least candidate. -/
theorem occurrenceFrom_eq_ok {u : Int} (h : s.occurrenceFrom z lookahead a last start = .ok u) :
    ∃ L, IsLeast (s.Candidates start last) L ∧ IsLeast {v | a < v ∧ Serves off v L} u := by
  rw [occurrenceFrom] at h
  obtain ⟨found, hfound, h₁⟩ := Outcome.bind_eq_ok.mp h
  cases found with
  | none =>
    obtain ⟨_, -, h₂⟩ := Outcome.bind_eq_ok.mp h₁
    cases h₂
  | some L =>
    have hL := nextMatch_eq_some hs h0 hw hfound
    obtain ⟨us, hus, h₂⟩ := Outcome.bind_eq_ok.mp h₁
    obtain ⟨v, hv, hleast⟩ := find?_firings hz hL.1.2.2.whole (lt_of_lt_of_le ha hL.1.1) hus
    rw [hv] at h₂
    cases h₂
    exact ⟨L, hL, hleast⟩

/-- The search has an answer unless there is no candidate. -/
theorem occurrenceFrom_total (hwritten : lookahead.isWritable = true) (hstart : 2 * day ≤ start) (hlast : last ≤ 9998) :
    (∃ u, s.occurrenceFrom z lookahead a last start = .ok u) ∨
      s.occurrenceFrom z lookahead a last start = .error (.problem (.unreachable s.expression lookahead)) ∧
        s.Candidates start last = ∅ := by
  obtain ⟨L, hfound⟩ | ⟨hfound, hnone⟩ := nextMatch_total hs h0 hw
    (show last < Int.ofNat maxYear by simp only [maxYear, Int.ofNat_eq_natCast]; omega)
  · have hL := (nextMatch_eq_some hs h0 hw hfound).1
    have hyear : yearOf L ≤ 9998 := by
      have := hL.2.1
      simp only [Int.ofNat_eq_natCast] at this
      omega
    have hin : WellInside L := by
      have := lt_of_yearOf_le hyear
      have := hL.1
      simp only [WellInside, day] at *
      omega
    obtain ⟨us, hus⟩ := exists_firings hz hL.2.2.whole hin
    obtain ⟨u, hu, -⟩ := find?_firings hz hL.2.2.whole (lt_of_lt_of_le ha hL.1) hus
    exact Or.inl ⟨u, occurrenceFrom_of_find? hfound hus hu⟩
  · refine Or.inr ⟨?_, hnone⟩
    rw [occurrenceFrom]
    simp only [hfound, Value.writable_of_isWritable hwritten, Outcome.ok_bind]

end From

/-! ### The next occurrence -/

theorem next_eq_ok {lookahead : Value} {u : Int} (h : s.next z a lookahead = .ok u) :
    ∃ last, lastYear (yearOf (nextSecond (a + off a))) lookahead = .ok last ∧
      ∃ L, IsLeast (s.Candidates (nextSecond (a + off a)) last) L ∧ IsLeast {v | a < v ∧ Serves off v L} u := by
  obtain ⟨start, last, hlooks, hu⟩ := next_eq_ok_iff.mp h
  obtain ⟨h0, hw⟩ := hlooks.whole
  obtain ⟨r, hr, hstart⟩ := Outcome.bind_eq_ok.mp hlooks.begins
  obtain ⟨-, rfl⟩ := hz.readingOf_eq_ok.mp hr
  obtain ⟨-, rfl⟩ := checked_eq_ok_iff.mp hstart
  exact ⟨last, hlooks.ends, occurrenceFrom_eq_ok hs hz h0 hw (lt_nextSecond _) hu⟩

theorem next_total {n : Int} (hn : 1 ≤ n) (hyear : 2 ≤ yearOf (a + off a)) (hlast : yearOf (a + off a) + n ≤ 9997) :
    (∃ u, s.next z a (.int n) = .ok u) ∨
      s.next z a (.int n) = .error (.problem (.unreachable s.expression (.int n))) ∧
        s.Candidates (nextSecond (a + off a)) (Int.ofNat (yearOf (nextSecond (a + off a))) + n) = ∅ := by
  have hnext := yearOf_nextSecond_le (a + off a)
  have hlt := lt_nextSecond (a + off a)
  have hlow := le_of_two_le_yearOf hyear
  have hlooks := looksAt_of_spaced hz n hyear (by omega)
  rw [next_of_looksAt hlooks]
  have hwritten := Value.isWritable_int_of_lt (show -10000 < n by omega) (show n < 10000 by omega)
  exact occurrenceFrom_total hs hz hlooks.whole.1 hlooks.whole.2 hlt hwritten (by simp only [day] at *; omega)
    (by simp only [Int.ofNat_eq_natCast]; omega)

end Next
end Schedule

/-! ### Half past two every night -/

/-- The schedule of half past two every night. -/
def nightly : Schedule where
  expression := "30 2 * * *"
  seconds := [0]
  minutes := [30]
  hours := [2]
  daysOfMonth := List.range' 1 31
  months := List.range' 1 12
  daysOfWeek := List.range' 0 7
  dayOfMonthRestricted := false
  dayOfWeekRestricted := false

theorem parse_nightly : parse "30 2 * * *" = .ok nightly := by rfl

/-- Half past two on 29 March 2026 matches. -/
theorem nightly_matches : nightly.Matches 63910348200000000 where
  whole := by decide
  month := by decide
  day := Schedule.matchesDay_iff.mp (by decide)
  hour := by decide
  minute := by decide
  second := by decide

/-- Noon of 28 March 2026 in UTC, told in seconds since 1970. -/
theorem summerZone_noon :
    Host.toInstant default (.value (.int 1774699200)) (.zone summerZone) = .ok 63910296000000000 := by rfl

/-- The reading of that noon. -/
theorem summerTime_reading :
    63910296000000000 + OffsetTable.summerTime.offsetAt 63910296000000000 = 63910299600000000 := by cbv

/-! ### From a time value -/

section TimeValue
variable {h : Host} {written : String} {s : Schedule} {after : TimeValue} {hint : ZoneHint} {zone : Zone}
  {off : Int → Int} {a n : Int}

theorem inGap_or_isLeast_of_serves {L u : Int} (hu : IsLeast {v | a < v ∧ Serves off v L} u) :
    InGap off u L ∨ IsLeast {v | a < v ∧ v + off v = L} u := by
  obtain ⟨⟨hau, hreads | hgap⟩, hmin⟩ := hu
  · exact Or.inr ⟨⟨hau, hreads⟩, fun v hv => hmin ⟨hv.1, Or.inl hv.2⟩⟩
  · exact Or.inl hgap

/-- The next occurrence after a time value, the zone's changes being spaced: the schedule is unreachable exactly if no
    whole second after the reading of the reference and within the lookahead matches; otherwise the occurrence is
    after the reference, and it is the end of the gap that the least match falls into, or the first instant after the
    reference that reads the least match. -/
theorem nextOccurrence_isLeast (hs : parse written = .ok s) (hzone : h.resolve hint = .ok zone)
    (hafter : h.toInstant after (.zone zone) = .ok a) (hoff : zone.offsets.Spaced off) (hn : 1 ≤ n)
    (hyear : 2 ≤ yearOf (a + off a)) (hlast : yearOf (a + off a) + n ≤ 9997) :
    let start := nextSecond (a + off a)
    let candidates := s.Candidates start (Int.ofNat (yearOf start) + n)
    (nextOccurrence h s after hint (.int n) = .error (.problem (.unreachable s.expression (.int n))) ↔
        candidates = ∅) ∧
      (candidates.Nonempty → ∃ L u, IsLeast candidates L ∧ nextOccurrence h s after hint (.int n) = .ok u ∧ a < u ∧
        (InGap off u L ∨ IsLeast {v | a < v ∧ v + off v = L} u)) := by
  intro start candidates
  have hs := parse_ordered hs
  have heq : nextOccurrence h s after hint (.int n) = s.next zone.offsets a (.int n) := by
    simp only [nextOccurrence, hzone, hafter, Outcome.ok_bind]
  rw [heq]
  obtain ⟨u, hu⟩ | ⟨hfail, hempty⟩ := Schedule.next_total hs hoff hn hyear hlast
  · obtain ⟨last, hyears, L, hL, hleast⟩ := Schedule.next_eq_ok hs hoff hu
    cases hyears
    constructor
    · rw [hu]
      exact iff_of_false (fun e => nomatch e) (Set.Nonempty.ne_empty ⟨L, hL.1⟩)
    · rintro -
      exact ⟨L, u, hL, hu, hleast.1.1, inGap_or_isLeast_of_serves hleast⟩
  · constructor
    · exact iff_of_true hfail hempty
    · intro hne
      exact absurd hempty hne.ne_empty

end TimeValue

/-- The next occurrence after noon of 28 March 2026. -/
theorem nextOccurrence_isLeast_nightly : ∃ L u,
    IsLeast (nightly.Candidates (nextSecond 63910299600000000)
      (Int.ofNat (yearOf (nextSecond 63910299600000000)) + 5)) L ∧
    nextOccurrence default nightly (.value (.int 1774699200)) (.zone summerZone) (.int 5) = .ok u ∧
    63910296000000000 < u ∧ (InGap OffsetTable.summerTime.offsetAt u L ∨
      IsLeast {v | 63910296000000000 < v ∧ v + OffsetTable.summerTime.offsetAt v = L} u) := by
  have hread := summerTime_reading
  have hspec := nextOccurrence_isLeast (n := 5) parse_nightly (resolve_zone default summerZone) summerZone_noon
    summerZone_spaced (by decide) (by rw [hread]; decide) (by rw [hread]; decide)
  rw [hread] at hspec
  exact hspec.2 ⟨63910348200000000, by decide, by decide, nightly_matches⟩

end Cron
end JobScheduling
