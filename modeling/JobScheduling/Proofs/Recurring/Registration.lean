import Mathlib
import JobScheduling.Proofs.Activity
import JobScheduling.Proofs.Job.Failure
import JobScheduling.Proofs.Outcome
import JobScheduling.Proofs.Zone.Name
import JobScheduling.Recurring.Registry

/-! Registrations that fail. What is wrong with a registration is found before anything is written, and a storage that
    refuses the write is asked before the roster is changed. The description of the job and the identifier of the zone
    are asked for last, for the log: a job without the one or a zone without the other fails the registration when the
    job is already in both places, and there it stays. -/

namespace JobScheduling
namespace BackedRegistry

open Activity

/-! ### Writing through -/

theorem perform_guardWrite {name : String} {p : Progress MemoryStorage} : (MemoryStorage.guardWrite name).perform p =
    match p.state.refusal with
    | some f => (.error f, { p with state := { p.state with refused := p.state.refused ++ [name] } })
    | none => (.ok (), p) := by
  simp only [MemoryStorage.guardWrite, perform_bind, perform_state]
  cases p.state.refusal <;> rfl

section Sink
variable {p : Progress BackedRegistry} {m : MemoryStorage} (hsink : p.state.sink = some (.memory m))
include hsink

theorem perform_throughSink_refused {f : Fault} (hm : m.refusal = some f) (id : String) (r : RecurringJob) :
    (throughSink (JobStorage.persistRecurring id r)).perform p = (.error f, { p with state := { p.state with
      sink := some (.memory { m with refused := m.refused ++ ["persist_recurring"] }) } }) := by
  simp only [throughSink, JobStorage.persistRecurring, JobStorage.split, MemoryStorage.persistRecurring, perform_bind,
    perform_state, perform_within, perform_guardWrite, hsink, hm]

theorem perform_throughSink_kept (hm : m.refusal = none) (id : String) (r : RecurringJob) :
    (throughSink (JobStorage.persistRecurring id r)).perform p = (.ok (), { p with state := { p.state with
      sink := some (.memory { m with recurring := m.recurring.insert id r }) } }) := by
  simp only [throughSink, JobStorage.persistRecurring, JobStorage.split, MemoryStorage.persistRecurring, perform_bind,
    perform_state, perform_within, perform_guardWrite, perform_put, hsink, hm]

end Sink

/-! ### Registering -/

/-- The recurring jobs in the storage of a registry, if it is one in memory. -/
def stored? (b : BackedRegistry) : Option Roster :=
  match b.sink with
  | some (.memory m) => some m.recurring
  | _ => none

section Schedule
variable {h : Host} {now : Int} {job : JobDefinition} {cron given : Value} {zone : ZoneHint}
  {p : Progress BackedRegistry} {m : MemoryStorage} (hsink : p.state.sink = some (.memory m))

theorem perform_schedule_of_error {f : Fault} (hprepare : prepare h now p.state.registry job cron given zone = .error f) :
    (schedule h now job cron given zone).perform p = (.error f, p) := by
  simp only [schedule, perform_bind, perform_state, perform_of, hprepare]

/-- What is prepared has an identifier, the schedule that was read, a zone, and its first run after the present. -/
theorem prepare_eq_ok {r : RecurringRegistry} {id : String} {prepared : RecurringJob} {run : Int}
    (hprepare : prepare h now r job cron given zone = .ok (id, prepared, run)) :
    (identifierOf job given = .ok id ∧ prepared.id = .text id) ∧ Cron.parseValue cron = .ok prepared.schedule ∧
      h.resolve (if zone.isUnsaid then r.defaultZone else zone) = .ok prepared.zone ∧
      prepared.nextRun h (.stamp (.ofInstant now)) r.lookahead = .ok run := by
  obtain ⟨_, hid, h₁⟩ := Outcome.bind_eq_ok.mp hprepare
  obtain ⟨_, hschedule, h₂⟩ := Outcome.bind_eq_ok.mp h₁
  obtain ⟨_, hzone, h₃⟩ := Outcome.bind_eq_ok.mp h₂
  obtain ⟨_, hrun, h₄⟩ := Outcome.bind_eq_ok.mp h₃
  cases h₄
  exact ⟨⟨hid, rfl⟩, hschedule, hzone, hrun⟩

include hsink

theorem perform_schedule_of_refused {id : String} {r : RecurringJob} {run : Int} {f : Fault}
    (hprepare : prepare h now p.state.registry job cron given zone = .ok (id, r, run)) (hm : m.refusal = some f) :
    (schedule h now job cron given zone).perform p = (.error f, { p with state := { p.state with
      sink := some (.memory { m with refused := m.refused ++ ["persist_recurring"] }) } }) := by
  simp only [schedule, perform_bind, perform_state, perform_of, hprepare, perform_throughSink_refused hsink hm]

/-- A registration that is written is in both places, and fails if its job cannot be described or its zone has no
    identifier. -/
theorem perform_schedule_of_written {id : String} {r : RecurringJob} {run : Int}
    (hprepare : prepare h now p.state.registry job cron given zone = .ok (id, r, run)) (hm : m.refusal = none) :
    ((schedule h now job cron given zone).perform p).1 = (job.describe >>= fun _ => h.zoneId r.zone).map (fun _ => id) ∧
      ((schedule h now job cron given zone).perform p).2.state = BackedRegistry.mk
        { p.state.registry with roster := p.state.roster.insert id r }
        (some (.memory { m with recurring := m.recurring.insert id r })) := by
  simp only [schedule, perform_bind, perform_state, perform_of, hprepare, perform_throughSink_kept hsink hm, perform_put]
  cases job.describe with
  | error f => exact ⟨rfl, rfl⟩
  | ok call => cases h.zoneId r.zone <;> exact ⟨rfl, rfl⟩

/-! ### Registrations that fail -/

/-- A registration that fails leaves the roster and the storage as they were, unless a job that is not already in both
    places was written and cannot be logged. -/
theorem unchanged_of_logged {f : Fault} (hsame : ∀ id r run f,
      prepare h now p.state.registry job cron given zone = .ok (id, r, run) → m.refusal = none →
        (job.describe >>= fun _ => h.zoneId r.zone) = .error f →
          p.state.roster.insert id r = p.state.roster ∧ m.recurring.insert id r = m.recurring)
    (hfail : ((schedule h now job cron given zone).perform p).1 = .error f) :
    ((schedule h now job cron given zone).perform p).2.state.roster = p.state.roster ∧
      ((schedule h now job cron given zone).perform p).2.state.stored? = some m.recurring := by
  cases hprepare : prepare h now p.state.registry job cron given zone with
  | error f' =>
    rw [perform_schedule_of_error hprepare]
    exact ⟨rfl, by simp only [stored?, hsink]⟩
  | ok prepared =>
    obtain ⟨id, r, run⟩ := prepared
    cases hm : m.refusal with
    | some f' =>
      rw [perform_schedule_of_refused hsink hprepare hm]
      exact ⟨rfl, rfl⟩
    | none =>
      obtain ⟨hresult, hstate⟩ := perform_schedule_of_written hsink hprepare hm
      rw [hfail] at hresult
      cases hlogged : job.describe >>= fun _ => h.zoneId r.zone with
      | ok name =>
        rw [hlogged] at hresult
        cases hresult
      | error f' =>
        obtain ⟨hroster, hstored⟩ := hsame id r run f' hprepare hm hlogged
        rw [hstate]
        exact ⟨hroster, congrArg some hstored⟩

omit hsink in
/-- What cannot be logged is a job with an argument that cannot be written, or one in a zone without an identifier. -/
theorem exists_not_logged_iff {z : Zone} : (∃ f, (job.describe >>= fun _ => h.zoneId z) = .error f) ↔
    Value.areWritable job.args = false ∨ ∃ f, h.zoneId z = .error f := by
  rw [JobDefinition.describe_eq]
  cases Value.areWritable job.args with
  | true => simp
  | false => simp

/-- A registration that fails leaves the roster and the storage as they were, exactly if no job was written that is not
    already in both places and has an argument that cannot be written or a zone without an identifier. -/
theorem schedule_unchanged_iff :
    ((∃ f, ((schedule h now job cron given zone).perform p).1 = .error f) →
      ((schedule h now job cron given zone).perform p).2.state.roster = p.state.roster ∧
        ((schedule h now job cron given zone).perform p).2.state.stored? = some m.recurring) ↔
    ∀ id r run, prepare h now p.state.registry job cron given zone = .ok (id, r, run) → m.refusal = none →
      (Value.areWritable job.args = false ∨ ∃ f, h.zoneId r.zone = .error f) →
        p.state.roster.insert id r = p.state.roster ∧ m.recurring.insert id r = m.recurring := by
  constructor
  · intro hunchanged id r run hprepare hm hlogged
    obtain ⟨f, hf⟩ := exists_not_logged_iff.mpr hlogged
    obtain ⟨hfail, hstate⟩ := perform_schedule_of_written hsink hprepare hm
    rw [hf] at hfail
    rw [hstate] at hunchanged
    obtain ⟨hroster, hstored⟩ := hunchanged ⟨f, hfail⟩
    exact ⟨hroster, Option.some.inj hstored⟩
  · rintro hsame ⟨f, hf⟩
    exact unchanged_of_logged hsink (fun id r run f' hprepare hm hlogged =>
      hsame id r run hprepare hm (exists_not_logged_iff.mp ⟨f', hlogged⟩)) hf

end Schedule

/-- Every midnight, in a zone whose offset depends on the month. -/
def seasonalMidnight : RecurringJob where
  id := .text "daily"
  job := default
  schedule := ⟨"0 0 * * *", [0], [0], [0], List.range' 1 31, List.range' 1 12, List.range' 0 7, false, false⟩
  zone := .seasonal 0

set_option maxRecDepth 20000 in
theorem prepare_seasonalMidnight : prepare default 63902908800000000 {} default (.text "0 0 * * *") (.text "daily")
    (.zone (.seasonal 0)) = .ok ("daily", seasonalMidnight, 63902991600000000) := by cbv

/-- Registered with an empty storage, it fails, and does not leave the roster and the storage as they were. -/
theorem schedule_unchanged_iff_seasonal :
    let after := (schedule default 63902908800000000 default (.text "0 0 * * *") (.text "daily")
      (.zone (.seasonal 0))).perform ⟨⟨{}, some (.memory {})⟩, 0, []⟩
    ¬((∃ f, after.1 = .error f) → after.2.state.roster = {} ∧ after.2.state.stored? = some {}) := by
  intro after hunchanged
  have hinsert := (schedule_unchanged_iff (m := {}) rfl).mp hunchanged "daily" seasonalMidnight 63902991600000000
    prepare_seasonalMidnight rfl (Or.inr ⟨.problem (.input (.anonymousZone "<SeasonalZone>")), rfl⟩)
  exact absurd (congrArg Roster.size hinsert.1) (by decide)

end BackedRegistry
end JobScheduling
