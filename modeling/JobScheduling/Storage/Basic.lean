import JobScheduling.Storage.Dispatcher
import JobScheduling.Storage.Memory

/-!
Storages of jobs: where a scheduler puts the jobs that it is given. Every storage takes jobs that run once, gives
each of them an identifier, and takes and removes recurring jobs by theirs.
-/

namespace JobScheduling

/-- A storage of jobs. -/
inductive JobStorage where
  | memory (m : MemoryStorage)
  | dispatcher (d : Dispatcher)
deriving Inhabited

namespace JobStorage

/-- The name under which logs know a storage. -/
def name : JobStorage → String
  | memory m =>
    match m.use with
    | .keeping => "InMemoryJobStorage"
    | .breaking => "ToggleStorage"
    | .failing => "FailingJobStorage"
  | dispatcher _ => "APSchedulerJobStorage"

/-- What is done to a storage: one thing to a storage in memory, another to a dispatcher. -/
def split {α : Type} (inMemory : Activity MemoryStorage α) (dispatched : Activity Dispatcher α) :
    Activity JobStorage α := do
  match ← Activity.state with
  | memory m => Activity.within (fun _ => m) (fun m _ => memory m) inMemory
  | dispatcher d => Activity.within (fun _ => d) (fun d _ => dispatcher d) dispatched

/-- To put a job that runs once into the storage; it gets a new identifier. -/
def persist (job : ScheduledJob) : Activity JobStorage String :=
  split (MemoryStorage.persist job) (Dispatcher.persist job)

/-- To put a recurring job into the storage, in the place of the one with its identifier. -/
def persistRecurring (id : String) (job : RecurringJob) : Activity JobStorage Unit :=
  split (MemoryStorage.persistRecurring id job) (Dispatcher.persistRecurring id job)

/-- To remove a recurring job from the storage; there need not be one. -/
def removeRecurring (id : Value) : Activity JobStorage Unit :=
  split (MemoryStorage.removeRecurring id) (Dispatcher.removeRecurring id)

/-- To break a storage, or to mend it; only one that is made for it takes notice. -/
def setBroken (broken : Bool) : Activity JobStorage Unit :=
  split (do Activity.put ((← Activity.state).setBroken broken)) (pure ())

/-- What only a storage in memory can do. -/
def inMemory {α : Type} (what : String) (a : Activity MemoryStorage α) : Activity JobStorage α :=
  split a (throw (.missingAttribute what))

/-- What only a dispatcher can do. -/
def dispatching {α : Type} (what : String) (a : Activity Dispatcher α) : Activity JobStorage α :=
  split (throw (.missingAttribute what)) a

end JobStorage
end JobScheduling
