import JobScheduling.Job.Run
import JobScheduling.Recurring.Roster
import JobScheduling.Recurring.Trigger

/-!
Dispatchers: storages that hand jobs on to a scheduler of another program, which runs each at the times of its
trigger. A dispatched job names the function that runs payloads and has the payload of a definition as its only
argument, so that it can be stored as text. A dispatcher records what is handed on and lets it be run by hand, or
it dispatches live: then jobs wait in a line until the start, a second start is refused, and the end of dispatching
forgets all jobs.
-/

namespace JobScheduling

/-- When a dispatched job runs. -/
inductive DispatchTrigger where
  | once (runAt : Stamp)
  | recurring (t : CronTrigger)
deriving Inhabited

/-- A job that was handed on. -/
structure DispatchedJob where
  id : String
  name : String
  payload : Value
  trigger : DispatchTrigger
deriving Inhabited

/-- The path of the function that runs payloads. -/
def DispatchedJob.function : String := "mp_jobs.adapters.apscheduler.storage:perform"

/-- A dispatcher. -/
structure Dispatcher where
  /-- How many years ahead the triggers of recurring jobs look. -/
  lookahead : Value := Cron.defaultLookahead
  /-- Whether jobs are really dispatched, not only recorded. -/
  live : Bool := false
  jobs : List DispatchedJob := []
  running : Bool := false
deriving Inhabited

namespace Dispatcher

/-! ### Identifiers -/

/-- The identifier under which a recurring job is dispatched. -/
def recurringId (id : String) : String := "recurring:" ++ id

/-- The job of an identifier. -/
def find? (d : Dispatcher) (id : String) : Option DispatchedJob := d.jobs.find? fun j => j.id == id

/-- The jobs in ascending order of their identifiers. -/
def byId (d : Dispatcher) : List DispatchedJob := d.jobs.mergeSort fun a b => !(b.id < a.id)

/-- The jobs with one more, which takes the place of one with its identifier. -/
def place (jobs : List DispatchedJob) (j : DispatchedJob) : List DispatchedJob :=
  jobs.filter (fun k => k.id != j.id) ++ [j]

/-- The dispatcher with one more job. In the line before the start no job takes the place of another. -/
def add (d : Dispatcher) (j : DispatchedJob) : Dispatcher :=
  { d with jobs := if d.live && !d.running then d.jobs ++ [j] else place d.jobs j }

/-- The dispatcher without the first job of an identifier. -/
def erase (d : Dispatcher) (id : String) : Dispatcher := { d with jobs := d.jobs.eraseP fun j => j.id == id }

/-! ### Writing -/

/-- To hand on a job that runs once. -/
def persist (job : ScheduledJob) : Activity Dispatcher String := do
  let id := JobId.ofNumber (← Activity.issue)
  let name ← Activity.of job.definition.describe
  let d ← Activity.state
  Activity.put (d.add ⟨id, name, job.definition.toValue, .once job.runAt⟩)
  return id

/-- To hand on a recurring job. -/
def persistRecurring (id : String) (job : RecurringJob) : Activity Dispatcher Unit := do
  let name ← Activity.of job.job.describe
  let d ← Activity.state
  Activity.put (d.add ⟨recurringId id, name, job.job.toValue,
    .recurring ⟨job.schedule, job.zone, d.lookahead⟩⟩)

/-- To take a recurring job back; that there is none is only logged. -/
def removeRecurring (id : Value) : Activity Dispatcher Unit := do
  let written ← Activity.of id.printed
  let d ← Activity.state
  match d.find? (recurringId written) with
  | some j => Activity.put (d.erase j.id)
  | none => Activity.log .debug "recurring_job.absent" [("recurring_id", id)]

/-! ### Running -/

/-- To start dispatching; the jobs in the line take their places. -/
def start (paused : Value) : Activity Dispatcher Unit := do
  let d ← Activity.state
  if d.live && d.running then throw .dispatching
  Activity.put { d with running := true, jobs := if d.live then d.jobs.foldl place [] else d.jobs }
  Activity.log .info "apscheduler.started" [("paused", paused)]

/-- To stop dispatching. -/
def shutdown : Activity Dispatcher Unit := do
  let d ← Activity.state
  if d.live && !d.running then throw .notDispatching
  Activity.put { d with running := false, jobs := if d.live then [] else d.jobs }
  Activity.log .info "apscheduler.stopped" []

/-- The result of the job of an identifier, run by hand. -/
def run (c : Catalogue) (resolver : Resolver) (id : String) : Activity Dispatcher Value := do
  let d ← Activity.state
  if d.live then throw (.missingAttribute "no record of jobs")
  match d.find? id with
  | some j => runPayload c resolver j.payload
  | none => throw (.missingKey (.text id))

end Dispatcher
end JobScheduling
