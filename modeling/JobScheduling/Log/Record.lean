import JobScheduling.Log.Level
import JobScheduling.Value.Written

/-!
Log records. A call to a logger becomes a record if its level reaches the threshold. The record holds the values
of the contexts around the call, those that are bound to the logger and those of the call itself, in this order of
precedence, and then the name of the event, of the logger and of the level; its values are written as JSON.
-/

namespace JobScheduling

/-- Named values, each name once. -/
abbrev Fields : Type := List (String × Value)

namespace Fields

/-- The fields with one of them set. -/
def set (fields : Fields) (name : String) (v : Value) : Fields :=
  fields.filter (fun f => f.1 != name) ++ [(name, v)]

/-- The fields with others set, one after the other. -/
def setAll (fields others : Fields) : Fields := others.foldl (fun acc f => set acc f.1 f.2) fields

end Fields

/-! ### Values as JSON holds them -/

mutual

/-- What is left of a value once it was written as JSON and read again: lists and tuples are one, byte strings are
    texts, and keys are texts. A dictionary with a key that has no JSON form cannot be written, and no whole number
    whose numeral would be too long. -/
def Value.viaJson? : Value → Option Value
  | .bytes bs => some (.text (Value.bytes bs).described)
  | .list items => (viaJsonAll? items).map .list
  | .tuple items => (viaJsonAll? items).map .list
  | .dict entries => (viaJsonEntries? entries).map .ofEntries
  | .int n => if (Value.int n).isWritable then some (.int n) else none
  | v => some v

/-- What is left of each item. -/
def Value.viaJsonAll? : List Value → Option (List Value)
  | [] => some []
  | v :: vs => do
    let w ← Value.viaJson? v
    let ws ← Value.viaJsonAll? vs
    some (w :: ws)

/-- What is left of each entry. -/
def Value.viaJsonEntries? : List (Value × Value) → Option (List (Value × Value))
  | [] => some []
  | (k, v) :: es => do
    let key ← Value.jsonKey? k
    let w ← Value.viaJson? v
    let ws ← Value.viaJsonEntries? es
    some ((.text key, w) :: ws)

end

/-! ### Loggers -/

/-- A logger with the values bound to it. -/
structure Logger where
  name : String
  bound : Fields
deriving Inhabited

/-- A call to a logger, with the contexts around it, the outermost first. -/
structure LogCall where
  level : Level
  event : Value
  values : Fields
  contexts : List Fields
deriving Inhabited

namespace Logger

/-- A logger of a name, the root logger if it has none. -/
def make (name : Value) (bound : Fields) : Outcome Logger :=
  if name.truthy then
    match name with
    | .text s => .ok ⟨s, bound⟩
    | _ => .error (.badType "A logger name must be a string")
  else .ok ⟨"root", bound⟩

/-- The names of options of a call and of what the log itself keeps with it; they are no fields of its record. -/
def options : List String := ["exc_info", "stack_info", "_record", "_from_structlog"]

/-- The values that belong to a call: those of the contexts, of the logger and of the call itself, and its event. -/
def given (l : Logger) (c : LogCall) : Fields :=
  let values := ((c.contexts.foldl Fields.setAll []).setAll l.bound).setAll c.values
  match c.event with
  | .null => values
  | event => values.set "event" event

/-- The fields of the record of a call. -/
def fields (l : Logger) (c : LogCall) : Fields :=
  let shown : Fields := (l.given c).filter fun f => !options.contains f.1
  (shown.set "logger" (.text l.name)).set "level" (.text c.level.name)

/-- The record of a call, if its values have a JSON form. -/
def record? (l : Logger) (c : LogCall) : Option Fields :=
  (l.fields c).mapM fun f => (f.2.viaJson?).map fun v => (f.1, v)

end Logger
end JobScheduling
