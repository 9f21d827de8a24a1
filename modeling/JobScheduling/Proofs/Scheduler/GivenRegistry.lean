import Mathlib
import JobScheduling.Proofs.Activity
import JobScheduling.Proofs.Outcome
import JobScheduling.Scheduler.Basic

/-! Schedulers that are handed a registry. Calls about recurring jobs do to the registry that a scheduler uses what they
    would do to it directly. Which one it uses is settled when it is made, by whether the registry that was handed in
    holds a job: one that is still empty is passed over, and what is scheduled later goes elsewhere. -/

namespace JobScheduling
namespace JobScheduler

open Activity

/-! ### Calls -/

/-- A call about recurring jobs. -/
inductive RecurringCall where
  | schedule (h : Host) (now : Int) (w : Work) (cron : Value) (args : List Value) (id : Value) (zone : ZoneHint)
  | delete (id : Value)

namespace RecurringCall

/-- A call on a scheduler. -/
def throughScheduler : RecurringCall → Activity JobScheduler Unit
  | schedule h now w cron args id zone => do let _ ← scheduleRecurringly h now w cron args id zone
  | delete id => deleteRecurringly id

/-- The same call on a registry, with what the work is captured as. -/
def direct : RecurringCall → Activity BackedRegistry Unit
  | schedule h now w cron args id zone => do
    let d ← Activity.of (w.capture args)
    let _ ← BackedRegistry.schedule h now d cron id zone
  | delete id => BackedRegistry.delete id

end RecurringCall

/-- Where calls lead to, one after the other, those that fail included. -/
def after {σ : Type} (a : RecurringCall → Activity σ Unit) (calls : List RecurringCall) (p : Progress σ) : Progress σ :=
  calls.foldl (fun p c => ((a c).perform p).2) p

theorem after_cons {σ : Type} (a : RecurringCall → Activity σ Unit) (c : RecurringCall) (calls : List RecurringCall)
    (p : Progress σ) : after a (c :: calls) p = after a calls ((a c).perform p).2 := rfl

/-! ### The registry in use -/

section InUse
variable {s : JobScheduler} {p : Progress JobScheduler}

/-- The progress of a scheduler as that of its registry. -/
def inUse (p : Progress JobScheduler) : Progress BackedRegistry := ⟨p.state.registry, p.issued, p.events⟩

theorem registry_withRegistry (b : BackedRegistry) : (withRegistry b s).registry = b := by
  obtain ⟨storage, settings, zone, own, given, usesGiven⟩ := s
  cases usesGiven <;> cases given <;> rfl

theorem withRegistry_registry : withRegistry s.registry s = s := by
  obtain ⟨storage, settings, zone, own, given, usesGiven⟩ := s
  cases usesGiven <;> cases given <;> rfl

theorem usesGiven_withRegistry (b : BackedRegistry) : (withRegistry b s).usesGiven = s.usesGiven := by
  obtain ⟨storage, settings, zone, own, given, usesGiven⟩ := s
  cases usesGiven <;> cases given <;> rfl

theorem given_withRegistry (b : BackedRegistry) :
    (withRegistry b s).given = if s.usesGiven then s.given.map fun _ => b else s.given := by
  obtain ⟨storage, settings, zone, own, given, usesGiven⟩ := s
  cases usesGiven <;> cases given <;> rfl

/-- A call on a scheduler does to its registry what the call does directly, and nothing else. -/
theorem perform_throughScheduler (c : RecurringCall) : (c.throughScheduler.perform p).2 =
    ⟨withRegistry (c.direct.perform (inUse p)).2.state p.state, (c.direct.perform (inUse p)).2.issued,
      (c.direct.perform (inUse p)).2.events⟩ := by
  cases c with
  | schedule h now w cron args id zone =>
    simp only [RecurringCall.throughScheduler, RecurringCall.direct, scheduleRecurringly, onRegistry, perform_bind,
      perform_of, perform_within]
    cases w.capture args with
    | error f => exact congrArg (fun s => Progress.mk s p.issued p.events) withRegistry_registry.symm
    | ok d =>
      dsimp only [inUse]
      cases ((BackedRegistry.schedule h now d cron id zone).perform ⟨p.state.registry, p.issued, p.events⟩).1 <;> rfl
  | delete id => rfl

theorem inUse_throughScheduler (c : RecurringCall) :
    inUse (c.throughScheduler.perform p).2 = (c.direct.perform (inUse p)).2 := by
  rw [perform_throughScheduler, inUse, registry_withRegistry]

/-- Where calls lead the registry that was handed in: it becomes what they would make of it if it is the one in use,
    and stays as it is if not. -/
theorem given_after (calls : List RecurringCall) : (after RecurringCall.throughScheduler calls p).state.given =
    if p.state.usesGiven then p.state.given.map fun _ => (after RecurringCall.direct calls (inUse p)).state
    else p.state.given := by
  induction calls generalizing p with
  | nil =>
    have hp := congrArg JobScheduler.given (withRegistry_registry (s := p.state))
    rw [given_withRegistry] at hp
    exact hp.symm
  | cons c calls ih =>
    -- The first call leaves the registry in use as the others would find it after the same call made directly.
    rw [after_cons, ih, inUse_throughScheduler, perform_throughScheduler, usesGiven_withRegistry, given_withRegistry,
      ← after_cons]
    cases p.state.usesGiven with
    | false => rfl
    | true => cases p.state.given <;> rfl

end InUse

/-! ### Schedulers that are handed a registry -/

theorem make_eq_ok {h : Host} {storage : Option JobStorage} {settings : SchedulerSettings} {r : BackedRegistry}
    {s : JobScheduler} (hmake : make h storage settings (some r) = .ok s) :
    s.given = some r ∧ s.usesGiven = (r.roster.size != 0) := by
  obtain ⟨zone, -, h⟩ := Outcome.bind_eq_ok.mp hmake
  cases h
  exact ⟨rfl, rfl⟩

/-- Calls on a scheduler leave the registry that it was handed as the same calls on that registry would, exactly if it
    held a job when the scheduler was made, or those calls would leave no job in it anyway. -/
theorem given_roster_eq_iff {h : Host} {storage : Option JobStorage} {settings : SchedulerSettings} {r : BackedRegistry}
    {s : JobScheduler} (hmake : make h storage settings (some r) = .ok s) (calls : List RecurringCall) (n : Nat)
    (events : List Event) :
    (after RecurringCall.throughScheduler calls ⟨s, n, events⟩).state.given.map BackedRegistry.roster =
        some (after RecurringCall.direct calls ⟨r, n, events⟩).state.roster ↔
      r.roster.size ≠ 0 ∨ (after RecurringCall.direct calls ⟨r, n, events⟩).state.roster = r.roster := by
  obtain ⟨hgiven, huses⟩ := make_eq_ok hmake
  rw [given_after, hgiven, huses]
  by_cases hsize : r.roster.size = 0
  · rw [if_neg (by simp [hsize])]
    constructor
    · intro heq
      exact Or.inr (Option.some.inj heq).symm
    · rintro (hne | heq)
      · exact absurd hsize hne
      · exact congrArg some heq.symm
  · have hinUse : inUse ⟨s, n, events⟩ = ⟨r, n, events⟩ := by
      simp only [inUse, registry, hgiven, huses, bne_iff_ne.mpr hsize]
    rw [if_pos (bne_iff_ne.mpr hsize), hinUse]
    exact iff_of_true rfl (Or.inl hsize)

/-- A job for every midnight in UTC. -/
def everyMidnight : RecurringCall :=
  .schedule default 63902908800000000 (.target default) (.text "0 0 * * *") [] (.text "daily") (.text "UTC")

theorem size_after_everyMidnight :
    (after RecurringCall.direct [everyMidnight] ⟨⟨{}, some (.memory {})⟩, 0, []⟩).state.roster.size = 1 := by decide +kernel

/-- Through a scheduler that was handed an empty registry, it does not get there. -/
theorem given_roster_eq_iff_everyMidnight :
    let r : BackedRegistry := ⟨{}, some (.memory {})⟩
    let s : JobScheduler :=
      ⟨some (.memory {}), {}, .utc, { defaultZone := .zone .utc, lookahead := .int 5 }, some r, false⟩
    make default (some (.memory {})) {} (some r) = .ok s ∧
      (after RecurringCall.throughScheduler [everyMidnight] ⟨s, 0, []⟩).state.given.map BackedRegistry.roster ≠
        some (after RecurringCall.direct [everyMidnight] ⟨r, 0, []⟩).state.roster := by
  intro r s
  have hmake : make default (some (.memory {})) {} (some r) = .ok s := by cbv
  refine ⟨hmake, fun heq => ?_⟩
  rcases (given_roster_eq_iff hmake [everyMidnight] 0 []).mp heq with hne | hroster
  · exact hne rfl
  · exact absurd (size_after_everyMidnight.symm.trans (congrArg Roster.size hroster)) (by decide)

end JobScheduler
end JobScheduling
