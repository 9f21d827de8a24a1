import JobScheduling.Storage.Basic

/-!
Registries of recurring jobs. A registry holds one job for each identifier, and writes what is registered and
removed through to a storage; what the storage refuses is not registered. A job is refused if it has no
occurrence within the lookahead of the registry. One that is registered without an identifier is known by its
signature.
-/

namespace JobScheduling

/-- A registry of recurring jobs. -/
structure RecurringRegistry where
  defaultZone : ZoneHint := .unsaid
  lookahead : Value := Cron.defaultLookahead
  roster : Roster := {}
deriving Inhabited

/-- A registry with the storage that it writes to, if it writes to one. -/
structure BackedRegistry where
  registry : RecurringRegistry
  sink : Option JobStorage
deriving Inhabited

namespace BackedRegistry

/-! ### Parts -/

/-- What is done to the storage of a registry, if it has one. -/
def throughSink (a : Activity JobStorage Unit) : Activity BackedRegistry Unit := do
  match (← Activity.state).sink with
  | some sink => Activity.within (fun _ => sink) (fun sink b => { b with sink := some sink }) a
  | none => pure ()

/-- The roster of a registry. -/
def roster (b : BackedRegistry) : Roster := b.registry.roster

/-- The registry with another roster. -/
def withRoster (b : BackedRegistry) (roster : Roster) : BackedRegistry :=
  { b with registry := { b.registry with roster } }

/-! ### Registering -/

/-- The identifier of a job: the one that is given, or else its signature. It is a text that is not blank. -/
def identifierOf (job : JobDefinition) (given : Value) : Outcome String :=
  match (if let .null := given then Value.text job.signature else given) with
  | .text s =>
    if Text.allBlank s.toList then .error (.problem (.input .emptyRecurringId)) else .ok s
  | _ => .error (.problem (.input .emptyRecurringId))

/-- The recurring job that a registration asks for, with its identifier and its first run. -/
def prepare (h : Host) (now : Int) (r : RecurringRegistry) (job : JobDefinition) (cron given : Value)
    (zone : ZoneHint) : Outcome (String × RecurringJob × Int) := do
  let id ← identifierOf job given
  let schedule ← Cron.parseValue cron
  let zone ← h.resolve (if zone.isUnsaid then r.defaultZone else zone)
  let recurring : RecurringJob := ⟨.text id, job, schedule, zone⟩
  let run ← recurring.nextRun h (.stamp (.ofInstant now)) r.lookahead
  .ok (id, recurring, run)

/-- To register a job under an identifier, in the place of the one that is there. The event describes the job and names
    the zone, after both are registered. -/
def schedule (h : Host) (now : Int) (job : JobDefinition) (cron given : Value) (zone : ZoneHint) :
    Activity BackedRegistry String := do
  let (id, recurring, run) ← Activity.of (prepare h now (← Activity.state).registry job cron given zone)
  throughSink (JobStorage.persistRecurring id recurring)
  let b ← Activity.state
  let replaced := b.roster.contains id
  Activity.put (b.withRoster (b.roster.insert id recurring))
  let call ← Activity.of job.describe
  let zoneId ← Activity.of (h.zoneId recurring.zone)
  Activity.log .info "recurring_job.registered"
    [("job", .text call), ("cron", .text recurring.schedule.expression), ("zone", .text zoneId),
      ("next_run", .text (Calendar.instantText run)), ("replaced", .bool replaced), ("recurring_id", .text id)]
  return id

/-- To remove the job of an identifier; there need not be one. -/
def delete (id : Value) : Activity BackedRegistry Unit := do
  throughSink (JobStorage.removeRecurring id)
  let b ← Activity.state
  let (removed, roster) ← Activity.of (b.roster.pop id)
  Activity.put (b.withRoster roster)
  Activity.log .info "recurring_job.deleted" [("recurring_id", id), ("existed", .bool removed.isSome)]

/-! ### Runs -/

/-- The next run of each of some jobs. -/
def nextRunsOf (h : Host) (r : RecurringRegistry) (after : TimeValue) :
    List (String × RecurringJob) → Outcome (List (String × Int))
  | [] => .ok []
  | e :: rest => do
    let run ← e.2.nextRun h after r.lookahead
    .ok ((e.1, run) :: (← nextRunsOf h r after rest))

/-- The next run of each job after a time, after the present if none is given. -/
def nextRuns (h : Host) (now : Int) (r : RecurringRegistry) (after : TimeValue) : Outcome (List (String × Int)) :=
  let reference := match after with
    | .value .null => .stamp (.ofInstant now)
    | t => t
  nextRunsOf h r reference r.roster.entries

end BackedRegistry
end JobScheduling
