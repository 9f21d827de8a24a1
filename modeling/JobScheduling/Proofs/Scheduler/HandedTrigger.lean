import JobScheduling.Proofs.Cron.Horizon
import JobScheduling.Proofs.Recurring.FireTime
import JobScheduling.Proofs.Recurring.Registration
import JobScheduling.Proofs.Scheduler.GivenRegistry

/-! Triggers that a scheduler hands to a dispatcher. A registry looks for the first run of a job after the present, and
    takes the job if it finds one within its own lookahead. The trigger of the job looks for its first time after the
    microsecond before, and within the lookahead of the dispatcher. Where that begins no later and ends in no earlier
    year, the trigger has a time as well; but in the last second of a year it ends a year earlier even if both lookaheads
    are the same, and a trigger whose first time is in that year is exhausted from the start. -/

namespace JobScheduling

open Calendar Offsets Activity

/-! ### Handing on -/

theorem Dispatcher.getLast?_add (d : Dispatcher) (j : DispatchedJob) : (d.add j).jobs.getLast? = some j := by
  unfold add place
  split <;> simp

/-- The dispatcher after a recurring job was handed on under a name. -/
def Dispatcher.handOn (d : Dispatcher) (id name : String) (r : RecurringJob) : Dispatcher :=
  d.add ⟨recurringId id, name, r.job.toValue, .recurring ⟨r.schedule, r.zone, d.lookahead⟩⟩

namespace BackedRegistry
variable {h : Host} {now : Int} {job : JobDefinition} {cron given : Value} {zone : ZoneHint}
  {p : Progress BackedRegistry} {d : Dispatcher}

/-- A recurring job is handed on under the description of its call. -/
theorem perform_throughSink_dispatched (hsink : p.state.sink = some (.dispatcher d)) (id : String) (r : RecurringJob) :
    (throughSink (JobStorage.persistRecurring id r)).perform p = match r.job.describe with
      | .ok name => (.ok (), { p with state := { p.state with sink := some (.dispatcher (d.handOn id name r)) } })
      | .error f => (.error f, p) := by
  obtain ⟨⟨registry, _⟩, n, events⟩ := p
  subst hsink
  simp only [throughSink, JobStorage.persistRecurring, JobStorage.split, Dispatcher.persistRecurring, perform_bind,
    perform_state, perform_within, perform_put, perform_of, Dispatcher.handOn]
  cases r.job.describe <;> rfl

/-- A registration that is made was prepared, and has handed the job on. -/
theorem prepare_of_schedule_eq_ok (hsink : p.state.sink = some (.dispatcher d)) {key : String}
    (hcall : ((schedule h now job cron given zone).perform p).1 = .ok key) :
    ∃ r run name, prepare h now p.state.registry job cron given zone = .ok (key, r, run) ∧
      (∃ id, h.zoneId r.zone = .ok id) ∧
      ((schedule h now job cron given zone).perform p).2.state.sink = some (.dispatcher (d.handOn key name r)) := by
  cases hprepare : prepare h now p.state.registry job cron given zone with
  | error f =>
    rw [perform_schedule_of_error hprepare] at hcall
    cases hcall
  | ok prepared =>
    obtain ⟨id, r, run⟩ := prepared
    simp only [schedule, perform_bind, perform_state, perform_of, hprepare, perform_throughSink_dispatched hsink]
      at hcall ⊢
    cases hname : r.job.describe with
    | error f =>
      rw [hname] at hcall
      cases hcall
    | ok name =>
      simp only [hname, perform_put] at hcall ⊢
      cases hjob : job.describe with
      | error f =>
        rw [hjob] at hcall
        cases hcall
      | ok call =>
        simp only [hjob] at hcall ⊢
        cases hzone : h.zoneId r.zone with
        | error f =>
          rw [hzone] at hcall
          cases hcall
        | ok zoneId =>
          rw [hzone] at hcall
          cases hcall
          exact ⟨r, run, name, rfl, ⟨zoneId, hzone⟩, rfl⟩

/-- The first run of what is prepared is found by a search from the present on. -/
theorem next_of_prepare {r : RecurringRegistry} {id : String} {prepared : RecurringJob} {run : Int}
    (hprepare : prepare h now r job cron given zone = .ok (id, prepared, run)) :
    inRange now = true ∧ prepared.schedule.next prepared.zone.offsets now r.lookahead = .ok run := by
  obtain ⟨-, -, -, hrun⟩ := prepare_eq_ok hprepare
  obtain ⟨a, ha, hnext⟩ := Cron.nextOccurrence_eq_ok.mp hrun
  rw [Stamp.toInstant_ofInstant] at ha
  obtain ⟨hin, rfl⟩ := checked_eq_ok_iff.mp ha
  exact ⟨hin, hnext⟩

end BackedRegistry

/-! ### The first time -/

namespace CronTrigger
variable {h : Host} {t : CronTrigger} {now : Int}

/-- The first time of a trigger that is asked for it at an instant. -/
def firstTime (h : Host) (t : CronTrigger) (now : Int) : Outcome (Option Int) :=
  (t.nextTime h (.value .null) (.stamp (.ofInstant now))).1

theorem search_first (hpos : 0 < now) (hin : inRange now = true) :
    t.search h (.value .null) (.stamp (.ofInstant now)) = t.schedule.next t.zone.offsets (now - 1) t.lookahead := by
  have hbefore : inRange (now - 1) = true := by
    rw [inRange_iff] at *
    omega
  have hplus : (Stamp.ofInstant now).plus (-1) = .ok (.ofInstant (now - 1)) := by
    have : checked (now + -1) = .ok (now - 1) := checked_of_inRange hbefore
    simp only [Stamp.plus, this, Outcome.ok_bind, Stamp.ofInstant]
  have hreference : reference (.value .null) (.stamp (.ofInstant now)) = .ok (.stamp (.ofInstant (now - 1))) := by
    simp only [reference, justBefore, hplus, Outcome.ok_bind]
  exact search_eq_next hreference (by rw [Stamp.toInstant_ofInstant, checked_of_inRange hbefore])

theorem exists_firstTime_iff (hs : t.schedule.Ordered) (hpos : 0 < now) (hin : inRange now = true) :
    (∃ u, t.firstTime h now = .ok (some u)) ↔ t.schedule.ReachesWithin t.zone.offsets (now - 1) t.lookahead := by
  simp only [firstTime, nextTime_eq_some, search_first hpos hin]
  exact Cron.Schedule.exists_next_iff hs

/-- In a zone whose changes are spaced a trigger is exhausted from the start, exactly if no match is looked at. -/
theorem firstTime_eq_none_iff (hs : t.schedule.Ordered) (hpos : 0 < now) (hin : inRange now = true)
    {off : Int → Int} (hz : t.zone.offsets.Spaced off) (hname : ∃ name, h.zoneId t.zone = .ok name) {n : Int}
    (hlookahead : t.lookahead = .int n) (hn : 1 ≤ n) (hyear : 2 ≤ yearOf (now - 1 + off (now - 1)))
    (hlast : yearOf (now - 1 + off (now - 1)) + n ≤ 9997) :
    t.firstTime h now = .ok none ↔ t.schedule.Candidates (Cron.nextSecond (now - 1 + off (now - 1)))
      (Int.ofNat (yearOf (Cron.nextSecond (now - 1 + off (now - 1)))) + n) = ∅ := by
  rw [firstTime, nextTime_eq_none, search_first hpos hin, hlookahead, and_iff_left hname]
  rcases Cron.Schedule.next_total hs hz hn hyear hlast with ⟨u, hu⟩ | ⟨hfail, hempty⟩
  · obtain ⟨last, hyears, L, hL, -⟩ := Cron.Schedule.next_eq_ok hs hz hu
    cases hyears
    refine iff_of_false ?_ (Set.Nonempty.ne_empty ⟨L, hL.1⟩)
    rintro ⟨f, hf, -⟩
    rw [hu] at hf
    cases hf
  · exact iff_of_true ⟨_, hfail, rfl⟩ hempty

end CronTrigger

namespace JobScheduler

/-- The identifier and the trigger of the recurring job that was handed to the dispatcher of a scheduler last. -/
def lastHanded? (s : JobScheduler) : Option (String × CronTrigger) :=
  match s.registry.sink with
  | some (.dispatcher d) => d.jobs.getLast?.bind fun j =>
    match j.trigger with
    | .recurring t => some (j.id, t)
    | .once _ => none
  | _ => none

section Handed
variable {h : Host} {now : Int} {w : Work} {cron id : Value} {args : List Value} {zone : ZoneHint} {key : String}
  {p : Progress JobScheduler} {d : Dispatcher}

/-- A call that returns has handed on the trigger of what the registry prepared. -/
theorem lastHanded?_of_scheduleRecurringly (hsink : p.state.registry.sink = some (.dispatcher d))
    (hcall : ((scheduleRecurringly h now w cron args id zone).perform p).1 = .ok key) :
    ∃ job r run, BackedRegistry.prepare h now p.state.registry.registry job cron id zone = .ok (key, r, run) ∧
      (∃ name, h.zoneId r.zone = .ok name) ∧
      ((scheduleRecurringly h now w cron args id zone).perform p).2.state.lastHanded? =
        some (Dispatcher.recurringId key, ⟨r.schedule, r.zone, d.lookahead⟩) := by
  simp only [scheduleRecurringly, onRegistry, perform_bind, perform_of] at hcall ⊢
  cases hjob : w.capture args with
  | error f =>
    rw [hjob] at hcall
    cases hcall
  | ok job =>
    rw [hjob] at hcall
    obtain ⟨r, run, _, hprepare, hname, hafter⟩ :=
      BackedRegistry.prepare_of_schedule_eq_ok (p := ⟨p.state.registry, p.issued, p.events⟩) hsink hcall
    refine ⟨job, r, run, hprepare, hname, ?_⟩
    simp only [perform_within, lastHanded?, registry_withRegistry, hafter, Dispatcher.handOn, Dispatcher.getLast?_add,
      Option.bind_some]

/-- A call that returns has handed on a trigger for its schedule and zone, with the lookahead of the dispatcher. The
    registry has found a run after the present; the trigger has a first time exactly if there is one after the
    microsecond before, within its own lookahead. It has one if it begins no later than the registry and looks no less
    far, and the zone tells at which instants the matches fire that it comes to before; in a zone whose changes are
    spaced it is exhausted from the start, exactly if there is no match within its lookahead. -/
theorem handed_fires_iff (hsink : p.state.registry.sink = some (.dispatcher d))
    (hcall : ((scheduleRecurringly h now w cron args id zone).perform p).1 = .ok key) (hnow : 0 < now) :
    ∃ t : CronTrigger,
      ((scheduleRecurringly h now w cron args id zone).perform p).2.state.lastHanded? =
        some (Dispatcher.recurringId key, t) ∧
      Cron.parseValue cron = .ok t.schedule ∧
      h.resolve (if zone.isUnsaid then p.state.registry.registry.defaultZone else zone) = .ok t.zone ∧
      t.lookahead = d.lookahead ∧
      t.schedule.ReachesWithin t.zone.offsets now p.state.registry.registry.lookahead ∧
      ((∃ u, t.firstTime h now = .ok (some u)) ↔
        t.schedule.ReachesWithin t.zone.offsets (now - 1) d.lookahead) ∧
      (∀ start last start' last',
        Cron.LooksAt t.zone.offsets now p.state.registry.registry.lookahead start last →
        Cron.LooksAt t.zone.offsets (now - 1) d.lookahead start' last' → start' ≤ start → last ≤ last' →
        (∀ q ∈ t.schedule.Seen start' last', q < start → ∃ us, Cron.firings t.zone.offsets q = .ok us) →
        ∃ u, t.firstTime h now = .ok (some u)) ∧
      ∀ off n, t.zone.offsets.Spaced off → d.lookahead = .int n → 1 ≤ n → 2 ≤ yearOf (now - 1 + off (now - 1)) →
        yearOf (now - 1 + off (now - 1)) + n ≤ 9997 →
        (t.firstTime h now = .ok none ↔ t.schedule.Candidates (Cron.nextSecond (now - 1 + off (now - 1)))
          (Int.ofNat (yearOf (Cron.nextSecond (now - 1 + off (now - 1)))) + n) = ∅) := by
  obtain ⟨job, r, run, hprepare, hname, hhanded⟩ := lastHanded?_of_scheduleRecurringly hsink hcall
  obtain ⟨-, hparse, hzone, -⟩ := BackedRegistry.prepare_eq_ok hprepare
  obtain ⟨hin, hrun⟩ := BackedRegistry.next_of_prepare hprepare
  have hs := Cron.parseValue_ordered hparse
  have hreaches := (Cron.Schedule.exists_next_iff hs).mp ⟨run, hrun⟩
  have hfires := CronTrigger.exists_firstTime_iff (h := h) (t := ⟨r.schedule, r.zone, d.lookahead⟩) hs hnow hin
  refine ⟨⟨r.schedule, r.zone, d.lookahead⟩, hhanded, hparse, hzone, rfl, hreaches, hfires, ?_, ?_⟩
  · intro start last start' last' hregistry htrigger hstart hlast hanswered
    obtain ⟨start₀, last₀, hlooks, hreached⟩ := hreaches
    obtain ⟨rfl, rfl⟩ := hlooks.unique hregistry
    exact hfires.mpr ⟨start', last', htrigger, hreached.mono (by omega) hstart hlast hanswered⟩
  · intro off n hz hlookahead hn hyear hlast
    exact CronTrigger.firstTime_eq_none_iff hs hnow hin hz hname hlookahead hn hyear hlast

end Handed
end JobScheduler

/-! ### Leap days -/

namespace Cron

/-- The schedule of midnight on every leap day. -/
def leapDay : Schedule where
  expression := "0 0 29 2 *"
  seconds := [0]
  minutes := [0]
  hours := [0]
  daysOfMonth := [29]
  months := [2]
  daysOfWeek := List.range' 0 7
  dayOfMonthRestricted := true
  dayOfWeekRestricted := false

theorem parse_leapDay : parse "0 0 29 2 *" = .ok leapDay := by rfl

theorem isLeap_of_leapDay {r : Int} (hr : leapDay.Matches r) : isLeap (yearOf r) = true := by
  have hday := hr.day_le rfl rfl rfl
  rw [daysInMonth] at hday
  by_contra hleap
  rw [if_neg hleap] at hday
  omega

/-- The year 2100 is no leap year, so there is none from 2097 to 2103. -/
theorem candidates_leapDay : leapDay.Candidates (nextSecond (66206505599000000 - 1 + 0))
    (Int.ofNat (yearOf (nextSecond (66206505599000000 - 1 + 0))) + 5) = ∅ := by
  refine Set.eq_empty_of_forall_notMem ?_
  rintro q ⟨hq, hyear, hmatch⟩
  have hleap := isLeap_of_leapDay hmatch
  have hfrom : 2098 ≤ yearOf q := yearOf_mono (r := nextSecond (66206505599000000 - 1 + 0)) hq
  have hto : yearOf q ≤ 2103 := Int.ofNat_le.mp hyear
  have : ∀ y ∈ List.range' 2098 6, isLeap y = false := by decide
  rw [this (yearOf q) (List.mem_range'_1.mpr ⟨hfrom, by omega⟩)] at hleap
  cases hleap

end Cron

namespace JobScheduler

/-- A scheduler over a new dispatcher, with the settings that it has without any said. -/
def overDispatcher : JobScheduler where
  storage := some (.dispatcher {})
  settings := {}
  zone := .utc
  own := { defaultZone := .zone .utc, lookahead := .int 5 }
  given := none
  usesGiven := false

theorem make_overDispatcher : make default (some (.dispatcher {})) {} none = .ok overDispatcher := by cbv

/-- In the last second of 2098 a job for midnight on every leap day is taken: the next one is in 2104. -/
theorem scheduleRecurringly_leapDay : ((scheduleRecurringly default 66206505599000000 (.target default)
    (.text "0 0 29 2 *") [] (.text "leap") .unsaid).perform ⟨overDispatcher, 0, []⟩).1 = .ok "leap" :=
  Outcome.toOption_eq_some.mp (by decide +kernel)

/-- Its trigger is exhausted from the start, which looks no further than 2103. -/
theorem handed_fires_iff_leapDay :
    let call := (scheduleRecurringly default 66206505599000000 (.target default) (.text "0 0 29 2 *") [] (.text "leap")
      .unsaid).perform ⟨overDispatcher, 0, []⟩
    make default (some (.dispatcher {})) {} none = .ok overDispatcher ∧ call.1 = .ok "leap" ∧ ∃ t,
      call.2.state.lastHanded? = some ("recurring:leap", t) ∧ t.lookahead = overDispatcher.own.lookahead ∧
      t.firstTime default 66206505599000000 = .ok none := by
  intro call
  obtain ⟨t, hhanded, hparse, hzone, hlookahead, -, -, -, hnone⟩ :=
    handed_fires_iff (p := ⟨overDispatcher, 0, []⟩) (d := {}) rfl scheduleRecurringly_leapDay (by decide)
  have hschedule : t.schedule = Cron.leapDay := Except.ok.inj (hparse.symm.trans Cron.parse_leapDay)
  have hutc : t.zone = .utc := Except.ok.inj (hzone.symm.trans (Cron.resolve_zone default .utc))
  refine ⟨make_overDispatcher, scheduleRecurringly_leapDay, t, hhanded, hlookahead, ?_⟩
  refine (hnone (fun _ => 0) 5 ?_ rfl (by decide) (by decide) (by decide)).mpr ?_
  · rw [hutc]
    exact Offsets.spaced_utc
  · rw [hschedule]
    exact Cron.candidates_leapDay

end JobScheduler
end JobScheduling
