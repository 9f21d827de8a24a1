import JobScheduling.Zone.Stamp

/-!
Clocks that stand still until they are moved. A clock shows an instant; it is set by a date-time with an offset
and moved by a length of time.
-/

namespace JobScheduling

/-- A clock. -/
structure Clock where
  now : Int
deriving DecidableEq, Repr, Inhabited

namespace Clock

/-- A clock at the instant of a date-time, which has to have an offset. -/
def ofTime : TimeValue → Outcome Clock
  | .stamp s => do
    if ← s.isAware then .ok ⟨← s.instant⟩ else .error (.problem (.input .clockNeedsZone))
  | _ => .error (.missingAttribute "'tzinfo'")

/-- A clock moved by the sum of named amounts of time. -/
def advance (c : Clock) (amounts : List (String × Value)) : Outcome Clock := do
  .ok ⟨← Calendar.checked (c.now + (← Calendar.span amounts))⟩

/-- What a clock shows, as a date-time. -/
def stamp (c : Clock) : Stamp := .ofInstant c.now

end Clock
end JobScheduling
