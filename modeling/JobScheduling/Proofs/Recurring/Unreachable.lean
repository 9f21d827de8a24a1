import JobScheduling.Proofs.Cron.Horizon
import JobScheduling.Proofs.Recurring.FireTime
import JobScheduling.Proofs.Recurring.Registration

/-! Schedules that are never due. In a zone whose offset never changes a search has an answer or tells that there is none,
    as long as its last year is before that of the calendar. A longer lookahead leads a schedule without occurrences
    beyond the calendar: registries and triggers then fail with an arithmetic error, and do not report the schedule as
    unreachable or the trigger as exhausted. -/

namespace JobScheduling

open Calendar Offsets

/-! ### Zones whose offset never changes -/

/-- A zone that has the same offset at all times: UTC, a fixed offset, or a table that never changes. -/
inductive Zone.IsFixed : Zone → Int → Prop where
  | utc : IsFixed .utc 0
  | fixed {offset : Int} (name : Option String) (h : -day < offset ∧ offset < day) : IsFixed (.fixed offset name) offset
  | table {offset : Int} (number : Nat) (key : String) {t : OffsetTable} (h : t.offsets.Spaced fun _ => offset) :
    IsFixed (.table number key t) offset

namespace Zone.IsFixed
variable {z : Zone} {offset : Int}

theorem spaced (hz : z.IsFixed offset) : z.offsets.Spaced fun _ => offset := by
  cases hz with
  | utc => exact Offsets.spaced_utc
  | fixed name h => exact spaced_constant h
  | table number key h => exact h

theorem exists_zoneId (hz : z.IsFixed offset) (h : Host) : ∃ id, h.zoneId z = .ok id := by
  cases hz <;> exact ⟨_, rfl⟩

end Zone.IsFixed

/-! ### Registries and triggers -/

theorem Cron.Schedule.isUnreachable_beyondCalendar (s : Cron.Schedule) : s.beyondCalendar.isUnreachable = false := by
  unfold Cron.Schedule.beyondCalendar
  split <;> rfl

section Schedules
variable {h : Host} {written : String} {s : Cron.Schedule} {zone : Zone} {a n : Int}

section NeverDue
variable {offset : Int} (hs : Cron.parse written = .ok s) (hfixed : zone.IsFixed offset) (hn : 1 ≤ n)
  (hyear : 2 ≤ yearOf (a + offset)) (hyear' : yearOf (a + offset) ≤ 9998)
  (hempty : s.Candidates (Cron.nextSecond (a + offset)) (Int.ofNat maxYear) = ∅)
include hs hfixed hn hyear hyear' hempty

/-- A registration reports a schedule that is never due as unreachable, as long as the calendar goes on beyond the
    lookahead. -/
theorem BackedRegistry.schedule_unreachable_iff {job : JobDefinition} {given : Value} {id : String} {hint : ZoneHint}
    {p : Progress BackedRegistry} (hid : BackedRegistry.identifierOf job given = .ok id)
    (hlookahead : p.state.registry.lookahead = .int n)
    (hzone : h.resolve (if hint.isUnsaid then p.state.registry.defaultZone else hint) = .ok zone) :
    ((BackedRegistry.schedule h a job (.text written) given hint).perform p).1 =
        .error (.problem (.unreachable s.expression (.int n))) ↔
      Int.ofNat (yearOf (Cron.nextSecond (a + offset))) + n < Int.ofNat maxYear := by
  have hnext := Cron.Schedule.next_of_no_candidate hfixed.spaced (Cron.parse_ordered hs) hn hyear hyear' hempty
  have hnow : h.toInstant (.stamp (.ofInstant a)) (.zone zone) = .ok a := by
    have hlow := Cron.le_of_two_le_yearOf hyear
    have hhigh := Cron.lt_of_yearOf_le hyear'
    have hoffset := hfixed.spaced.bounded a
    rw [Stamp.toInstant_ofInstant]
    refine checked_of_inRange (inRange_iff.mpr ?_)
    simp only [day] at *
    omega
  have hprepare : BackedRegistry.prepare h a p.state.registry job (.text written) given hint =
      s.next zone.offsets a (.int n) >>= fun run => .ok (id, ⟨.text id, job, s, zone⟩, run) := by
    simp only [BackedRegistry.prepare, hid, Cron.parseValue, hs, hzone, hlookahead, RecurringJob.nextRun,
      Cron.nextOccurrence_eq_next (Cron.resolve_zone h zone) hnow, Outcome.ok_bind]
  rw [hnext] at hprepare
  rw [BackedRegistry.perform_schedule_of_error hprepare, Except.error.injEq]
  split
  · exact iff_of_true rfl ‹_›
  · exact iff_of_false (s.beyondCalendar_ne_problem _) ‹_›

/-- A trigger of a schedule that is never due is exhausted, as long as the calendar goes on beyond the lookahead. -/
theorem CronTrigger.nextTime_none_iff {previous now after : TimeValue}
    (hreference : CronTrigger.reference previous now = .ok after) (hafter : h.toInstant after (.zone zone) = .ok a) :
    (CronTrigger.nextTime h ⟨s, zone, .int n⟩ previous now).1 = .ok none ↔
      Int.ofNat (yearOf (Cron.nextSecond (a + offset))) + n < Int.ofNat maxYear := by
  have hsearch : CronTrigger.search h ⟨s, zone, .int n⟩ previous now = _ :=
    (CronTrigger.search_eq_next hreference hafter).trans
      (Cron.Schedule.next_of_no_candidate hfixed.spaced (Cron.parse_ordered hs) hn hyear hyear' hempty)
  rw [CronTrigger.nextTime_eq_none, hsearch, and_iff_left (hfixed.exists_zoneId h)]
  constructor
  · rintro ⟨f, hf, hreport⟩
    by_contra hlast
    rw [if_neg hlast] at hf
    cases hf
    exact absurd hreport (by rw [s.isUnreachable_beyondCalendar]; decide)
  · intro hlast
    exact ⟨_, by rw [if_pos hlast], rfl⟩

end NeverDue

/-- In a zone whose offset never changes the search for a next occurrence has an answer or tells that the schedule is
    unreachable, exactly if its last year is before that of the calendar, or the calendar has a match and the instant of
    the least one. A schedule without a match in the calendar is reported as unreachable by a registry, and its trigger
    as exhausted, exactly if the last year is before that of the calendar. -/
theorem unreachable_iff_of_fixed {offset : Int} (hs : Cron.parse written = .ok s) (hfixed : zone.IsFixed offset)
    (hn : 1 ≤ n) (hyear : 2 ≤ yearOf (a + offset)) (hyear' : yearOf (a + offset) ≤ 9998) :
    let start := Cron.nextSecond (a + offset)
    let last := Int.ofNat (yearOf start) + n
    let unreachable : Fault := .problem (.unreachable s.expression (.int n))
    (∀ after hint, h.resolve hint = .ok zone → h.toInstant after (.zone zone) = .ok a →
      ((∃ u, Cron.nextOccurrence h s after hint (.int n) = .ok u) ∨
          Cron.nextOccurrence h s after hint (.int n) = .error unreachable ↔
        last < Int.ofNat maxYear ∨
          ∃ L, IsLeast (s.Candidates start (Int.ofNat maxYear)) L ∧ L - offset < limit)) ∧
    (s.Candidates start (Int.ofNat maxYear) = ∅ →
      (∀ job given id hint (p : Progress BackedRegistry), BackedRegistry.identifierOf job given = .ok id →
        p.state.registry.lookahead = .int n →
        h.resolve (if hint.isUnsaid then p.state.registry.defaultZone else hint) = .ok zone →
        (((BackedRegistry.schedule h a job (.text written) given hint).perform p).1 = .error unreachable ↔
          last < Int.ofNat maxYear)) ∧
      ∀ previous now after, CronTrigger.reference previous now = .ok after → h.toInstant after (.zone zone) = .ok a →
        ((CronTrigger.nextTime h ⟨s, zone, .int n⟩ previous now).1 = .ok none ↔ last < Int.ofNat maxYear)) := by
  intro start last unreachable
  refine ⟨fun after hint hzone hafter => ?_, fun hempty => ⟨?_, ?_⟩⟩
  · rw [Cron.nextOccurrence_eq_next hzone hafter]
    exact Cron.Schedule.next_answers_iff hfixed.spaced (Cron.parse_ordered hs) hn hyear hyear'
  · intro job given id hint p hid hlookahead hzone
    exact BackedRegistry.schedule_unreachable_iff hs hfixed hn hyear hyear' hempty hid hlookahead hzone
  · intro previous now after hreference hafter
    exact CronTrigger.nextTime_none_iff hs hfixed hn hyear hyear' hempty hreference hafter

end Schedules

/-! ### The thirtieth of February -/

/-- The schedule of midnight on the thirtieth of February. -/
def Cron.neverDue : Cron.Schedule where
  expression := "0 0 30 2 *"
  seconds := [0]
  minutes := [0]
  hours := [0]
  daysOfMonth := [30]
  months := [2]
  daysOfWeek := List.range' 0 7
  dayOfMonthRestricted := true
  dayOfWeekRestricted := false

theorem Cron.parse_neverDue : Cron.parse "0 0 30 2 *" = .ok Cron.neverDue := by rfl

theorem Cron.candidates_neverDue (start last : Int) : Cron.neverDue.Candidates start last = ∅ := by
  refine Set.eq_empty_of_forall_notMem ?_
  rintro r ⟨-, -, hr⟩
  have hday := hr.day_le rfl rfl rfl
  rw [daysInMonth] at hday
  split at hday <;> omega

/-- With a lookahead of 9000 years from 2026 on it is neither due nor unreachable, and its trigger is not exhausted. -/
theorem unreachable_iff_of_fixed_neverDue :
    let now : TimeValue := .stamp (.ofInstant 63902822400000000)
    let unreachable : Fault := .problem (.unreachable "0 0 30 2 *" (.int 9000))
    ¬((∃ u, Cron.nextOccurrence default Cron.neverDue now (.text "UTC") (.int 9000) = .ok u) ∨
        Cron.nextOccurrence default Cron.neverDue now (.text "UTC") (.int 9000) = .error unreachable) ∧
      ((BackedRegistry.schedule default 63902822400000000 default (.text "0 0 30 2 *") (.text "never")
          (.text "UTC")).perform ⟨⟨{ lookahead := .int 9000 }, none⟩, 0, []⟩).1 ≠ .error unreachable ∧
      (CronTrigger.nextTime default ⟨Cron.neverDue, .utc, .int 9000⟩ now now).1 ≠ .ok none := by
  intro now unreachable
  have hutc : Host.resolve default (.text "UTC") = .ok .utc := by rfl
  have hnow : Host.toInstant default now (.zone .utc) = .ok 63902822400000000 := by rfl
  obtain ⟨hnext, hnone⟩ := unreachable_iff_of_fixed (h := default) (n := 9000) Cron.parse_neverDue .utc
    (by decide) (show 2 ≤ yearOf (63902822400000000 + 0) by decide) (by decide)
  obtain ⟨hregistry, htrigger⟩ := hnone (Cron.candidates_neverDue _ _)
  have hlast : ¬Int.ofNat (yearOf (Cron.nextSecond (63902822400000000 + 0))) + 9000 < Int.ofNat maxYear := by decide
  refine ⟨fun hanswers => ?_, fun hreported => ?_, fun hexhausted => ?_⟩
  · rcases (hnext now (.text "UTC") hutc hnow).mp hanswers with h | ⟨L, hL, -⟩
    · exact hlast h
    · rw [Cron.candidates_neverDue] at hL
      exact hL.1
  · exact hlast ((hregistry default (.text "never") "never" (.text "UTC") _ (by rfl) rfl hutc).mp hreported)
  · exact hlast ((htrigger now now now rfl hnow).mp hexhausted)

end JobScheduling
