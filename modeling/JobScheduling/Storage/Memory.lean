import JobScheduling.Log.Event
import JobScheduling.Recurring.Roster

/-!
Storages that keep jobs in memory. Such a storage tells which of its jobs are due. It may refuse to be written to,
for tests of what happens then; a refused write leaves it as it was.
-/

namespace JobScheduling

/-- What a storage in memory is for. -/
inductive MemoryUse where
  /-- To keep jobs. -/
  | keeping
  /-- To refuse writes for a time. -/
  | breaking
  /-- To refuse all writes, and to tell which there were. -/
  | failing
deriving DecidableEq, Repr, Inhabited

/-- A storage in memory. -/
structure MemoryStorage where
  use : MemoryUse := .keeping
  /-- The jobs by identifier, in the order in which they were written. -/
  jobs : List (String × ScheduledJob) := []
  recurring : Roster := {}
  /-- The failure of writes, if they are refused. -/
  refusal : Option Fault := none
  /-- The writes that were refused, in their order. -/
  refused : List String := []
deriving Inhabited

namespace MemoryStorage

/-! ### Refusal -/

/-- A storage that refuses all writes. -/
def failing : MemoryStorage := { use := .failing, refusal := some (.timedOut "storage failed") }

/-- The storage after it was broken or mended; only one that is made for it can be. -/
def setBroken (m : MemoryStorage) (broken : Bool) : MemoryStorage :=
  match m.use with
  | .breaking => { m with refusal := if broken then some (.disconnected "storage broken") else none }
  | _ => m

/-- To refuse a write if writes are refused. -/
def guardWrite (name : String) : Activity MemoryStorage Unit := do
  let m ← Activity.state
  match m.refusal with
  | some f =>
    Activity.put { m with refused := m.refused ++ [name] }
    throw f
  | none => pure ()

/-! ### Writing -/

/-- To keep a job under a new identifier. -/
def persist (job : ScheduledJob) : Activity MemoryStorage String := do
  guardWrite "persist"
  let id := JobId.ofNumber (← Activity.issue)
  let m ← Activity.state
  Activity.put { m with jobs := m.jobs ++ [(id, job)] }
  return id

/-- To keep a recurring job under its identifier. -/
def persistRecurring (id : String) (job : RecurringJob) : Activity MemoryStorage Unit := do
  guardWrite "persist_recurring"
  let m ← Activity.state
  Activity.put { m with recurring := m.recurring.insert id job }

/-- To remove a recurring job, if it is there. -/
def removeRecurring (id : Value) : Activity MemoryStorage Unit := do
  guardWrite "remove_recurring"
  let m ← Activity.state
  let (_, recurring) ← Activity.of (m.recurring.pop id)
  Activity.put { m with recurring }

/-- The storage without any jobs. -/
def clear (m : MemoryStorage) : MemoryStorage := { m with jobs := [], recurring := {} }

/-! ### Reading -/

/-- The job under an identifier. -/
def get? (m : MemoryStorage) (id : JobId) : Option ScheduledJob :=
  match id.value with
  | .text s => (m.jobs.find? fun j => j.1 == s).map (·.2)
  | _ => none

/-- Whether a job is not to run after another one. Times that cannot be compared count as equal. -/
def noLater (a b : String × ScheduledJob) : Bool :=
  match a.2.runAt.notAfter b.2.runAt with
  | .ok r => r
  | .error _ => true

/-- Those of some jobs that may run at a time. -/
def dueAmong (now : TimeValue) : List (String × ScheduledJob) → Outcome (List (String × ScheduledJob))
  | [] => .ok []
  | j :: rest => do
    let due ← j.2.isDue now
    let others ← dueAmong now rest
    .ok (if due then j :: others else others)

/-- The jobs that may run at a time, the earliest first; of those for the same time the one that was written
    first. -/
def due (m : MemoryStorage) (now : TimeValue) : Outcome (List (String × ScheduledJob)) := do
  .ok ((← dueAmong now m.jobs).mergeSort noLater)

end MemoryStorage
end JobScheduling
