import JobScheduling.Cron.Occurrence
import JobScheduling.Cron.Parser
import JobScheduling.Log.Event
import JobScheduling.Value.Access

/-!
Triggers: a schedule in a zone as a dispatcher asks for it, one time after the other. The first time may be the
present; each further one lies after the one before. A trigger that finds no time within its lookahead is
exhausted. Its state names the zone, and a trigger can be made from it again.
-/

namespace JobScheduling

/-- A schedule in a zone, and how many years ahead it looks. -/
structure CronTrigger where
  schedule : Cron.Schedule
  zone : Zone
  lookahead : Value
deriving Inhabited

/-- Whether a failure tells that a schedule has no occurrence. -/
def Fault.isUnreachable : Fault → Bool
  | problem p => p.kind == .scheduleUnreachable
  | _ => false

namespace CronTrigger

/-! ### Times -/

/-- The time just before another one, as its wall clock shows it. -/
def justBefore : TimeValue → Outcome TimeValue
  | .stamp s => do .ok (.stamp (← s.plus (-1)))
  | .span d => do .ok (.span (← Calendar.checkedSpan (d - 1)))
  | .value v => .error (.badType ("unsupported operand types for -: " ++ v.typeName))

/-- The time after which a trigger looks: the one before, or else the present, which then is not excluded. -/
def reference (previous now : TimeValue) : Outcome TimeValue :=
  match previous with
  | .value .null => justBefore now
  | t => .ok t

/-- The first occurrence after the reference. -/
def search (h : Host) (t : CronTrigger) (previous now : TimeValue) : Outcome Int := do
  Cron.nextOccurrence h t.schedule (← reference previous now) (.zone t.zone) t.lookahead

/-- The next time of a trigger, none if it is exhausted, and the events that are logged. Exhaustion is logged
    under the name of the zone. -/
def nextTime (h : Host) (t : CronTrigger) (previous now : TimeValue) : Outcome (Option Int) × List Event :=
  match t.search h previous now with
  | .ok u => (.ok (some u), [])
  | .error f =>
    if f.isUnreachable then
      match h.zoneId t.zone with
      | .ok zone =>
        (.ok none, [⟨.warning, "cron_trigger.exhausted",
          [("cron", .text t.schedule.expression), ("zone", .text zone)]⟩])
      | .error f => (.error f, [])
    else (.error f, [])

/-! ### Texts and states -/

/-- The text of a trigger. -/
def text (h : Host) (t : CronTrigger) : Outcome String := do
  .ok ("cron[" ++ t.schedule.expression ++ ", zone=" ++ (← h.zoneId t.zone) ++ "]")

/-- A trigger as a message shows it. -/
def shown (h : Host) (t : CronTrigger) : Outcome String := do
  let zone ← h.zoneId t.zone
  .ok ("<CronScheduleTrigger (" ++ Text.quoted t.schedule.expression ++ ", zone=" ++ Text.quoted zone ++ ")>")

/-- The version of the states that triggers have. -/
def stateVersion : Int := 1

/-- The state of a trigger. -/
def toValue (h : Host) (t : CronTrigger) : Outcome Value := do
  .ok (.ofFields [("version", .int stateVersion), ("expression", .text t.schedule.expression),
    ("zone", .text (← h.zoneId t.zone)), ("lookahead_years", t.lookahead)])

/-- Whether a version is above the one of states that triggers have; only numbers can be. -/
def isNewer : Value → Outcome Bool
  | .float x => .ok (x.compareFraction? stateVersion 1 == some .gt)
  | v =>
    match v.integer? with
    | some n => .ok (stateVersion < n)
    | none => .error (.badType ("'>' not supported for a version of type " ++ v.typeName))

/-- The trigger of a state. A state without a version has the present one. -/
def ofValue (h : Host) : Value → Outcome CronTrigger
  | .dict entries => do
    let version := (Value.lookup? (.text "version") entries).getD (.int stateVersion)
    if ← isNewer version then
      .error (.badValue
        ("Got serialized data for version " ++ (← version.printed) ++ ", but only version 1 can be handled"))
    else
      let state := Value.dict entries
      let schedule ← Cron.parseValue (← state.entry "expression")
      let zone ← h.resolve (.ofValue (← state.entry "zone"))
      .ok ⟨schedule, zone, ← state.entry "lookahead_years"⟩
  | v => .error (.missingAttribute ("'" ++ v.typeName ++ "' object has no attribute 'get'"))

end CronTrigger
end JobScheduling
