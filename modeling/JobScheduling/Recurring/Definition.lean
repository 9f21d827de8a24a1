import JobScheduling.Cron.Occurrence
import JobScheduling.Cron.Parser
import JobScheduling.Job.Definition

/-!
Recurring jobs: a definition that is due again at every occurrence of a schedule in a zone, under an identifier.
A recurring job has a payload, from which it can be read again as long as its zone has a name.
-/

namespace JobScheduling

/-- A job that runs at every occurrence of a schedule. -/
structure RecurringJob where
  id : Value
  job : JobDefinition
  schedule : Cron.Schedule
  zone : Zone
deriving Inhabited

namespace RecurringJob

/-- The first instant after a time at which a recurring job is due. -/
def nextRun (h : Host) (r : RecurringJob) (after : TimeValue) (lookahead : Value) : Outcome Int :=
  Cron.nextOccurrence h r.schedule after (.zone r.zone) lookahead

/-- Whether two recurring jobs are equal, identifiers and arguments compared as values. -/
def equals (shared : Bool) (a b : RecurringJob) : Bool :=
  a.id.equals shared b.id && a.job.equals shared b.job && a.schedule == b.schedule && a.zone.same b.zone

/-! ### Payloads -/

/-- The payload of a recurring job; it names the zone. -/
def toValue (h : Host) (r : RecurringJob) : Outcome Value := do
  let zone ← h.zoneId r.zone
  .ok (.ofFields [("id", r.id), ("job", r.job.toValue), ("cron", .text r.schedule.expression), ("zone", .text zone)])

/-- What a failure to read the parts of a recurring job means for its payload: an error about a payload inside
    it stands for itself; a missing entry, a payload that is no dictionary and every other error of this library
    make it malformed. -/
def malformed : Fault → Fault
  | .problem p =>
    if p.kind.lineage.contains .serialization then .problem p else .problem (.recurringPayload (.problem p))
  | .missingKey k => .problem (.recurringPayload (.missingKey k))
  | .badType t => .problem (.recurringPayload (.badType t))
  | f => f

/-- The recurring job that a payload is one of, before its failures are explained. -/
def parts (h : Host) (payload : Value) : Outcome RecurringJob := do
  let id ← payload.entry "id"
  let job ← JobDefinition.ofValue (← payload.entry "job")
  let schedule ← Cron.parseValue (← payload.entry "cron")
  let zone ← h.resolve (.ofValue (← payload.entry "zone"))
  .ok ⟨id, job, schedule, zone⟩

/-- The recurring job of a payload. -/
def ofValue (h : Host) (payload : Value) : Outcome RecurringJob :=
  (parts h payload).mapError malformed

end RecurringJob
end JobScheduling
