import JobScheduling.Proofs.Cron.Failure
import JobScheduling.Recurring.Registry

/-! How registrations can fail: for a blank identifier, an expression that cannot be read, a zone that is unknown, or a
    schedule that is unreachable. To ask a roster for what is no identifier is a general failure. -/

namespace JobScheduling

open Outcome

theorem RecurringJob.nextRun_failsAmong (h : Host) (r : RecurringJob) (after : TimeValue) (lookahead : Value) :
    (r.nextRun h after lookahead).FailsAmong [.validation, .scheduleUnreachable] :=
  Cron.nextOccurrence_failsAmong h r.schedule after (.zone r.zone) lookahead

namespace Roster

theorem identifier?_failsAmong (v : Value) : v.identifier?.FailsAmong [] := by
  unfold Value.identifier?
  split
  · exact failsAmong_ok _
  · refine FailsAmong.bind ?_ fun _ => failsAmong_ok _
    unfold Value.key
    split
    · exact failsAmong_ok _
    · exact failsAmong_error.mpr trivial

theorem pop_failsAmong (r : Roster) (id : Value) : (r.pop id).FailsAmong [] := by
  unfold pop
  split
  · exact failsAmong_ok _
  · exact FailsAmong.bind (identifier?_failsAmong id) fun _ => failsAmong_ok _

end Roster

namespace BackedRegistry

theorem identifierOf_failsAmong (job : JobDefinition) (given : Value) : (identifierOf job given).FailsAmong [.validation] := by
  unfold identifierOf
  split
  · split
    · simp [Fault.Among, Problem.kind]
    · exact failsAmong_ok _
  · simp [Fault.Among, Problem.kind]

/-- What is wrong with a registration is wrong with its identifier, its expression, its zone or its schedule. -/
theorem prepare_failsAmong (h : Host) (now : Int) (r : RecurringRegistry) (job : JobDefinition) (cron given : Value)
    (zone : ZoneHint) :
    (prepare h now r job cron given zone).FailsAmong [.validation, .scheduleExpression, .scheduleUnreachable] :=
  FailsAmong.bind ((identifierOf_failsAmong job given).mono (by simp)) fun _ =>
  FailsAmong.bind ((Cron.parseValue_failsAmong cron).mono (by simp)) fun _ =>
  FailsAmong.bind ((h.resolve_failsAmong _).mono (by simp)) fun _ =>
  FailsAmong.bind ((RecurringJob.nextRun_failsAmong h _ _ _).mono (by simp)) fun _ => failsAmong_ok _

end BackedRegistry
end JobScheduling
