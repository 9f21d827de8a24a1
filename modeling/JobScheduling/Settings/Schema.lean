import JobScheduling.Number.Literal
import JobScheduling.Settings.Scheduler
import JobScheduling.Text.Trim

/-!
Settings from environment variables. A schema names the settings of a program with their types and defaults; each
is read from a variable of its own, and what was read has to pass a check of the schema. Whatever goes wrong is
an error about settings.
-/

namespace JobScheduling

/-! ### Variables -/

/-- Environment variables by name. -/
abbrev Environment : Type := List (String × String)

namespace Environment

/-- The value of a variable. -/
def get? (e : Environment) (name : String) : Option String := (e.find? fun v => v.1 == name).map (·.2)

/-- The environment with a variable set. -/
def set (e : Environment) (name value : String) : Environment :=
  (name, value) :: e.filter fun v => v.1 != name

/-- The variable that a line `NAME=value` of a file sets. -/
def ofLine? (line : String) : Option (String × String) :=
  match Text.cut '=' line.toList with
  | (name, some value) => some (String.ofList name, String.ofList value)
  | _ => none

/-- The variables that the lines of a file set, a later line replacing an earlier one. -/
def ofLines (lines : List String) : Environment :=
  (lines.filterMap ofLine?).foldl (fun e v => e.set v.1 v.2) []

/-- The environment with the variables of a file added. A variable that is set already keeps its value unless
    the file overrides it. -/
def withFile (e file : Environment) (override : Bool) : Environment :=
  file.foldr (fun v e => if override || (e.get? v.1).isNone then e.set v.1 v.2 else e) e

end Environment

/-- The machine with the zone that an environment sets for it, if it sets one. -/
def Host.within (h : Host) (e : Environment) : Host := { h with tz := (e.get? "TZ").getD h.tz }

/-! ### Schemas -/

/-- The type of a setting. -/
inductive SettingType where
  | text
  | int
  | float
  | bool
  /-- A list of texts, separated by commas. -/
  | texts
  /-- A list of anything. -/
  | list
  /-- An integer or nothing. -/
  | optionalInt
deriving DecidableEq, Repr, Inhabited

/-- A setting of a schema. -/
structure SettingField where
  name : String
  type : SettingType
  default? : Option Value
deriving Inhabited

/-- The settings of a program. -/
structure SettingsSchema where
  name : String
  /-- What the names of the variables begin with. -/
  lead : String
  fields : List SettingField
  check : List (String × Value) → Outcome Unit

instance : Inhabited SettingsSchema := ⟨⟨"", "", [], fun _ => .ok ()⟩⟩

namespace SettingsSchema

/-- The variable of a setting. -/
def variableOf (s : SettingsSchema) (f : SettingField) : String :=
  let name := Text.upper (Text.upper s.lead.toList ++ '_' :: f.name.toList)
  String.ofList (name.dropWhile (· = '_'))

/-! ### Conversion -/

/-- The texts that stand for true. -/
def trueTexts : List String := ["1", "true", "yes", "on"]

/-- The texts that stand for false. -/
def falseTexts : List String := ["0", "false", "no", "off"]

/-- The truth value that a text stands for, in upper or lower case and with blanks around it. -/
def truth? (raw : String) : Option Bool :=
  let s := String.ofList (Text.lower (Text.trim raw.toList))
  if trueTexts.contains s then some true else if falseTexts.contains s then some false else none

/-- The texts of a list, trimmed, empty ones left out. -/
def textsOf (raw : String) : List String :=
  (((Text.pieces ',' raw.toList).map Text.trim).filter fun s => !s.isEmpty).map String.ofList

/-- The error that the text of a variable does not write a number. -/
def noNumber (name raw type : String) : Fault :=
  .problem (.invalidSetting name (.text raw) ("expected " ++ type)
    (some (.badValue ("invalid " ++ type ++ " literal: " ++ Text.quoted raw))))

/-- The value of a setting that the text of its variable writes. -/
def convert (name raw : String) : SettingType → Outcome Value
  | .bool =>
    match truth? raw with
    | some b => .ok (.bool b)
    | none => .error (.problem (.invalidSetting name (.text raw) "expected a boolean" none))
  | .int =>
    match Numeral.int? raw.toList with
    | some n => .ok (.int n)
    | none => .error (noNumber name raw "int")
  | .float =>
    match Numeral.float? raw.toList with
    | some x => .ok (.float x)
    | none => .error (noNumber name raw "float")
  | .texts => .ok (.list ((textsOf raw).map Value.text))
  | .text | .list | .optionalInt => .ok (.text raw)

/-! ### Loading -/

/-- The values of the settings, in their order; a setting whose variable is not set has its default. -/
def read (s : SettingsSchema) (e : Environment) : List SettingField → Outcome (List (String × Value))
  | [] => .ok []
  | f :: rest => do
    let v ← match e.get? (s.variableOf f), f.default? with
      | some raw, _ => convert (s.variableOf f) raw f.type
      | none, some v => .ok v
      | none, none => .error (.problem (.missingSetting (s.variableOf f)))
    .ok ((f.name, v) :: (← s.read e rest))

/-- What a failed check means for loading: an error about settings stands for itself, and any other failure is
    the cause of one. A check that never ends fails in no way. -/
def explained (s : SettingsSchema) : Fault → Fault
  | .endless => .endless
  | f => if f.isConfiguration then f else .problem (.loading s.name f)

/-- The settings that an environment gives. -/
def load (s : SettingsSchema) (e : Environment) : Outcome (List (String × Value)) := do
  let values ← s.read e s.fields
  (s.check values).mapError s.explained
  .ok values

end SettingsSchema

/-! ### The settings of a scheduler -/

/-- The schema of the settings of a scheduler. -/
def SchedulerSettings.schema (h : Host) : SettingsSchema :=
  { name := "JobSchedulerSettings"
    lead := "MP_JOBS"
    fields :=
      [⟨"default_zone", .text, some (.text "")⟩, ⟨"cron_lookahead_years", .int, some (.int 5)⟩,
        ⟨"log_level", .text, some (.text "INFO")⟩, ⟨"log_json", .bool, some (.bool true)⟩]
    check := fun given => do let _ ← SchedulerSettings.make h given; .ok () }

/-- The settings of a scheduler that an environment gives. -/
def SchedulerSettings.load (h : Host) (e : Environment) : Outcome SchedulerSettings := do
  SchedulerSettings.make h (← (SchedulerSettings.schema h).load e)

end JobScheduling
