import JobScheduling.Job.Batch
import JobScheduling.Recurring.Registry
import JobScheduling.Settings.Scheduler

/-!
Schedulers: they capture work and put it into a storage, to run at once, at a time, or again and again. A
scheduler has a registry for its recurring jobs, which writes to the storage of the scheduler. Another registry
may be handed in, and is used if it holds a job by then.
-/

namespace JobScheduling

/-- A scheduler. -/
structure JobScheduler where
  storage : Option JobStorage
  settings : SchedulerSettings
  /-- The zone of calls that name none. -/
  zone : Zone
  /-- The registry that was made for this scheduler. -/
  own : RecurringRegistry
  /-- The registry that was handed in. -/
  given : Option BackedRegistry
  usesGiven : Bool
deriving Inhabited

namespace JobScheduler

/-! ### Making -/

/-- A scheduler over a storage. -/
def make (h : Host) (storage : Option JobStorage) (settings : SchedulerSettings)
    (given : Option BackedRegistry) : Outcome JobScheduler := do
  let zone ← settings.zone h
  .ok
    { storage, settings, zone, given
      own := { defaultZone := .zone zone, lookahead := settings.lookaheadYears }
      usesGiven := given.any fun g => g.roster.size != 0 }

/-- The registry that a scheduler uses, with the storage that it writes to. -/
def registry (s : JobScheduler) : BackedRegistry :=
  match s.usesGiven, s.given with
  | true, some g => g
  | _, _ => ⟨s.own, s.storage⟩

/-- The scheduler after its registry has become another one. -/
def withRegistry (b : BackedRegistry) (s : JobScheduler) : JobScheduler :=
  match s.usesGiven, s.given with
  | true, some _ => { s with given := some b }
  | _, _ => { s with own := b.registry, storage := b.sink }

/-- What is done to the registry of a scheduler. -/
def onRegistry {α : Type} (a : Activity BackedRegistry α) : Activity JobScheduler α :=
  Activity.within registry withRegistry a

/-! ### Jobs that run once -/

/-- To put a job into the storage, and to log under the name of an event that it was. A job whose call cannot be
    described is in the storage by then. -/
def persist (event : String) (job : ScheduledJob) : Activity JobScheduler String := do
  match (← Activity.state).storage with
  | none => throw (.missingAttribute "'NoneType' object has no attribute 'persist'")
  | some storage =>
    let id ← Activity.within (fun _ => storage) (fun storage s => { s with storage := some storage })
      (JobStorage.persist job)
    let call ← Activity.of job.definition.describe
    let runAt ← Activity.of job.runAt.text
    Activity.log .info event [("job_id", .text id), ("job", .text call), ("run_at", .text runAt)]
    return id

/-- To run a work with arguments as soon as possible. -/
def enqueue (now : Int) (w : Work) (args : List Value) : Activity JobScheduler String := do
  let d ← Activity.of (w.capture args)
  persist "job.enqueued" ⟨d, .ofInstant now⟩

/-- To put definitions into the storage one after the other. -/
def persistAll (now : Int) : List JobDefinition → Activity JobScheduler (List String)
  | [] => return []
  | d :: rest => do
    let id ← persist "job.enqueued" ⟨d, .ofInstant now⟩
    return id :: (← persistAll now rest)

/-- To run a work for each item of a collection as soon as possible. What came before a failure of the source
    stays in the storage. -/
def enqueueEach (now : Int) (items : Items) (w : Work) : Activity JobScheduler (List String) := do
  let batch ← Activity.of (w.captureEach items false)
  let (jobs, ending) := batch.all
  let ids ← persistAll now jobs
  match ending with
  | some f => throw f
  | none => return ids

/-- The instant that a call means by a time: a length of time counts from the present, and a time without a zone
    is read in the zone of the call, or else of the scheduler. -/
def runAt (h : Host) (now : Int) (s : JobScheduler) (time : TimeValue) (zone : ZoneHint) : Outcome Int :=
  match time with
  | .span d => Calendar.checked (now + d)
  | t => h.toInstant t (if zone.isUnsaid then .zone s.zone else zone)

/-- To run a work with arguments at a time. -/
def schedule (h : Host) (now : Int) (w : Work) (time : TimeValue) (args : List Value) (zone : ZoneHint) :
    Activity JobScheduler String := do
  let u ← Activity.of ((← Activity.state).runAt h now time zone)
  let d ← Activity.of (w.capture args)
  persist "job.scheduled" ⟨d, .ofInstant u⟩

/-! ### Recurring jobs -/

/-- To run a work with arguments at every occurrence of a schedule. -/
def scheduleRecurringly (h : Host) (now : Int) (w : Work) (cron : Value) (args : List Value) (id : Value)
    (zone : ZoneHint) : Activity JobScheduler String := do
  let d ← Activity.of (w.capture args)
  onRegistry (BackedRegistry.schedule h now d cron id zone)

/-- To stop running a recurring job. -/
def deleteRecurringly (id : Value) : Activity JobScheduler Unit := onRegistry (BackedRegistry.delete id)

end JobScheduler
end JobScheduling
