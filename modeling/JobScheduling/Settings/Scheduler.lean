import JobScheduling.Log.Level
import JobScheduling.Zone.Resolve

/-!
The settings of a scheduler: the zone of calls that name none, how many years ahead an occurrence is looked for,
and how events are logged. Settings are held as they were given and are checked when they are made.
-/

namespace JobScheduling

/-- The settings of a scheduler. -/
structure SchedulerSettings where
  defaultZone : Value := .text ""
  lookaheadYears : Value := .int 5
  logLevel : Value := .text "INFO"
  logJson : Value := .bool true
deriving Inhabited

namespace SchedulerSettings

/-! ### Named values -/

/-- The settings under their names. -/
def fields (s : SchedulerSettings) : List (String × Value) :=
  [("default_zone", s.defaultZone), ("cron_lookahead_years", s.lookaheadYears), ("log_level", s.logLevel),
    ("log_json", s.logJson)]

/-- The settings with the one of a name set to a value. -/
def set (s : SchedulerSettings) (name : String) (v : Value) : Outcome SchedulerSettings :=
  match name with
  | "default_zone" => .ok { s with defaultZone := v }
  | "cron_lookahead_years" => .ok { s with lookaheadYears := v }
  | "log_level" => .ok { s with logLevel := v }
  | "log_json" => .ok { s with logJson := v }
  | _ => .error (.badType ("unexpected setting " ++ Text.quoted name))

/-- The settings with those of the given names set, one after the other. -/
def setAll (s : SchedulerSettings) : List (String × Value) → Outcome SchedulerSettings
  | [] => .ok s
  | given :: rest => do (← s.set given.1 given.2).setAll rest

/-! ### Checks -/

/-- Whether a lookahead is below one year; only numbers can be. -/
def isBelowOne : Value → Outcome Bool
  | .float x => .ok (x.compareFraction? 1 1 == some .lt)
  | v =>
    match v.integer? with
    | some n => .ok (n < 1)
    | none => .error (.badType ("'<' not supported for a lookahead of type " ++ v.typeName))

/-- Whether a value names a level for logs; only a text or a byte string can be looked at. -/
def namesLevel : Value → Outcome Bool
  | .text s => .ok (namedRank? s).isSome
  | .bytes _ => .ok false
  | v => .error (.missingAttribute ("'" ++ v.typeName ++ "' object has no attribute 'upper'"))

/-- The error that a setting cannot be used, which shows it. -/
def refuse {α : Type} (name : String) (v : Value) (reason : String) (cause : Option Fault) : Outcome α := do
  .error (.problem (.invalidSetting name (← v.writable) reason cause))

/-- The default zone; where none is set the zone of the machine. -/
def zone (h : Host) (s : SchedulerSettings) : Outcome Zone :=
  h.resolve (if s.defaultZone.truthy then .ofValue s.defaultZone else .unsaid)

/-- The checks that settings have to pass, in their order. -/
def validate (h : Host) (s : SchedulerSettings) : Outcome Unit := do
  if ← isBelowOne s.lookaheadYears then
    refuse "cron_lookahead_years" s.lookaheadYears "must be at least 1" none
  if !(← namesLevel s.logLevel) then refuse "log_level" s.logLevel "unknown log level" none
  match s.zone h with
  | .ok _ => .ok ()
  | .error f =>
    if f.isValidation then refuse "default_zone" s.defaultZone "unknown time zone" (some f) else .error f

/-- The settings of the given names, the others having their defaults. -/
def make (h : Host) (given : List (String × Value)) : Outcome SchedulerSettings := do
  let s ← setAll {} given
  s.validate h
  .ok s

end SchedulerSettings
end JobScheduling
