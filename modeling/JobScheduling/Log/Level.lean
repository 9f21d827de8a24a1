import JobScheduling.Text.LetterCase
import JobScheduling.Value.Access

/-!
Levels of log events. Each has a rank, and a log keeps the events whose rank reaches its threshold. A threshold is
given as a rank or as the name of one.
-/

namespace JobScheduling

/-- How much an event matters. -/
inductive Level where
  | debug
  | info
  | warning
  | error
  | critical
deriving DecidableEq, Repr, Inhabited

namespace Level

/-- The name of a level in a record. -/
def name : Level → String
  | debug => "debug"
  | info => "info"
  | warning => "warning"
  | error => "error"
  | critical => "critical"

/-- The rank of a level. -/
def rank : Level → Int
  | debug => 10
  | info => 20
  | warning => 30
  | error => 40
  | critical => 50

/-- The level that a call asks for by one of its names. -/
def ofName? : String → Option Level
  | "debug" => some debug
  | "info" => some info
  | "warning" | "warn" => some warning
  | "error" | "exception" => some error
  | "critical" | "fatal" => some critical
  | _ => none

end Level

/-! ### Thresholds -/

/-- The ranks that have a name. -/
def rankNames : List (String × Int) :=
  [("CRITICAL", 50), ("FATAL", 50), ("ERROR", 40), ("WARN", 30), ("WARNING", 30), ("INFO", 20), ("DEBUG", 10),
    ("NOTSET", 0)]

/-- The rank that a name stands for, in upper or lower case. -/
def namedRank? (name : String) : Option Int :=
  (rankNames.find? fun r => r.1.toList == Text.upper name.toList).map (·.2)

/-- The threshold that a value sets: a rank, or the name of one. -/
def threshold : Value → Outcome Int
  | .text s =>
    match namedRank? s with
    | some rank => .ok rank
    | none => .error (.badValue ("Unknown log level " ++ Text.quoted s))
  | v =>
    match v.integer? with
    | some rank => .ok rank
    | none => do .error (.badType ("Level not an integer or a valid string: " ++ (← v.shown)))

end JobScheduling
