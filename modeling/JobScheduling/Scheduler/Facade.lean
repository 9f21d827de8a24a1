import JobScheduling.Scheduler.Basic
import JobScheduling.Settings.Schema

/-!
The facade of a program: at most one scheduler is bound at a time, and calls that name no scheduler go to that
one. Schedulers are numbered in the order in which they were made, and are told apart by their numbers.
-/

namespace JobScheduling

/-- The schedulers of a program, the number of the bound one, and the settings of logs that were asked for, each
    as a level and whether records are JSON. -/
structure Facade where
  schedulers : List JobScheduler := []
  bound : Option Nat := none
  logging : List (Value × Value) := []
deriving Inhabited

namespace Facade

/-! ### Schedulers -/

/-- To add a scheduler; its number. -/
def add (s : JobScheduler) : Activity Facade Nat := do
  let f ← Activity.state
  Activity.put { f with schedulers := f.schedulers ++ [s] }
  return f.schedulers.length

/-- What is done to the scheduler of a number. -/
def onScheduler {α : Type} (n : Nat) (a : Activity JobScheduler α) : Activity Facade α := do
  match (← Activity.state).schedulers[n]? with
  | some s => Activity.within (fun _ => s) (fun s f => { f with schedulers := f.schedulers.set n s }) a
  | none => throw (.problem .notInitialized)

/-! ### Binding -/

/-- To bind a scheduler. While another one is bound this fails. -/
def bind (n : Nat) : Activity Facade Unit := do
  let f ← Activity.state
  if f.bound.any fun m => m != n then throw (.problem .alreadyInitialized)
  Activity.put { f with bound := some n }

/-- To release the bound scheduler; its number, if one was bound. -/
def unbind : Activity Facade (Option Nat) := do
  let f ← Activity.state
  Activity.put { f with bound := none }
  return f.bound

/-- The number of the bound scheduler. -/
def current : Activity Facade Nat := do
  match (← Activity.state).bound with
  | some n => return n
  | none => throw (.problem .notInitialized)

/-- What is done to the bound scheduler. -/
def operate {α : Type} (a : Activity JobScheduler α) : Activity Facade α := do onScheduler (← current) a

/-! ### Configuration -/

/-- To make a scheduler and to bind it. Settings that are not given come from the environment, and a storage that
    is not given keeps jobs in memory. Logs are set up only once the scheduler is bound, and for a level that is one. -/
def configure (h : Host) (e : Environment) (storage : Option JobStorage) (settings : Option SchedulerSettings)
    (setLogging : Bool) : Activity Facade Nat := do
  let h := h.within e
  let settings ← match settings with
    | some s => pure s
    | none => Activity.of (SchedulerSettings.load h e)
  let storage := storage.getD (.memory {})
  let s ← Activity.of (JobScheduler.make h (some storage) settings none)
  bind (← Activity.state).schedulers.length
  let n ← add s
  if setLogging then
    let _ ← Activity.of (threshold settings.logLevel)
    let f ← Activity.state
    Activity.put { f with logging := f.logging ++ [(settings.logLevel, settings.logJson)] }
  let zone ← Activity.of (do h.zoneId (← settings.zone h))
  Activity.log .info "scheduler.configured" [("storage", .text storage.name), ("default_zone", .text zone)]
  return n

end Facade
end JobScheduling
