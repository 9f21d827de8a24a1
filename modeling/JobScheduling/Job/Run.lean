import JobScheduling.Catalogue.Basic
import JobScheduling.Job.Definition
import JobScheduling.Log.Event
import JobScheduling.Object.Call

/-!
Running jobs. A job runs by importing its target and calling it: a function is called as it is, a service is made
first and then its method is called. A stored job is read from its payload, and its start is logged.
-/

namespace JobScheduling

/-- How services are made: with nothing, or with a value that is handed to each of them. -/
abbrev Resolver : Type := List Value

/-- What a target calls, ready to take the arguments. -/
def JobTarget.load (c : Catalogue) (resolver : Resolver) : JobTarget → Outcome Entity
  | static path => c.importPath path
  | service path method => do (← (← c.importPath path).call resolver).member method

/-- The result of running a definition. -/
def JobDefinition.run (c : Catalogue) (resolver : Resolver) (d : JobDefinition) : Outcome Value := do
  (← (← d.target.load c resolver).call d.args).asValue

/-- The result of the job that a payload defines. A job whose call cannot be described does not run. -/
def runPayload {σ : Type} (c : Catalogue) (resolver : Resolver) (payload : Value) : Activity σ Value := do
  let d ← Activity.of (JobDefinition.ofValue payload)
  let call ← Activity.of d.describe
  Activity.log .info "job.started" [("job", .text call)]
  Activity.of (d.run c resolver)

end JobScheduling
