import JobScheduling.Recurring.Definition

/-!
Rosters: recurring jobs by their identifiers, in ascending order of those. To insert a job under an identifier
puts it in the place of the one that was there.
-/

namespace JobScheduling

/-- Recurring jobs by identifier. -/
structure Roster where
  entries : List (String × RecurringJob) := []
deriving Inhabited

namespace Roster

/-- The job under an identifier. -/
def find? (r : Roster) (id : String) : Option RecurringJob := (r.entries.find? fun e => e.1 == id).map (·.2)

/-- Whether there is a job under an identifier. -/
def contains (r : Roster) (id : String) : Bool := (r.find? id).isSome

/-- The entries with one more, or with another one in its place. -/
def insertEntry (id : String) (job : RecurringJob) : List (String × RecurringJob) → List (String × RecurringJob)
  | [] => [(id, job)]
  | e :: entries =>
    if id < e.1 then (id, job) :: e :: entries
    else if id = e.1 then (id, job) :: entries
    else e :: insertEntry id job entries

/-- The roster with a job under an identifier. -/
def insert (r : Roster) (id : String) (job : RecurringJob) : Roster := ⟨insertEntry id job r.entries⟩

/-- The roster without the job of an identifier. -/
def erase (r : Roster) (id : String) : Roster := ⟨r.entries.filter fun e => e.1 != id⟩

/-- The identifiers, in ascending order. -/
def ids (r : Roster) : List String := r.entries.map (·.1)

/-- The jobs, in the order of their identifiers. -/
def jobs (r : Roster) : List RecurringJob := r.entries.map (·.2)

/-- How many jobs there are. -/
def size (r : Roster) : Nat := r.entries.length

end Roster

/-! ### Identifiers as callers write them -/

/-- The identifier that a value may stand for; only a text is one, and some values cannot be looked up at all. -/
def Value.identifier? : Value → Outcome (Option String)
  | .text s => .ok (some s)
  | v => do
    let _ ← v.key
    .ok none

namespace Roster

/-- The job under an identifier that a caller writes. -/
def lookup (r : Roster) (id : Value) : Outcome (Option RecurringJob) := do
  .ok ((← id.identifier?).bind r.find?)

/-- The job that is removed with an identifier that a caller writes, and the roster without it. Nothing is looked up in
    an empty roster. -/
def pop (r : Roster) (id : Value) : Outcome (Option RecurringJob × Roster) :=
  if r.entries.isEmpty then .ok (none, r)
  else do
    let name ← id.identifier?
    .ok (name.bind r.find?, (name.map r.erase).getD r)

end Roster
end JobScheduling
